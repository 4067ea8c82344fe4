import Mathlib.Tactic.Ring
import Mathlib.Tactic.Linarith
import RowStream.Proofs.Decimals
import RowStream.Decode.Scalar

/-! # Seconds since the epoch, as texts and as scaled integers

The text path negates and borrows, the integer path divides with remainder. They agree wherever the whole
seconds fit 64 bits, and beyond that neither gives a time. -/
namespace RowStream
open RowStream.Text RowStream.Number RowStream.Number.Decimal RowStream.Calendar

namespace Number.Range

theorem read?_digits (r : Range) {cs : List Char} (filled : cs ≠ []) (digits : allDigits cs = true) :
    r.read? cs = r.within? (ofDigits cs) := by
  obtain ⟨d, rest, rfl⟩ := List.exists_cons_of_ne_nil filled
  have digit := allDigits_iff.mp digits d List.mem_cons_self
  have minus : d ≠ '-' := ne_of_isDigit digit rfl
  have plus : d ≠ '+' := ne_of_isDigit digit rfl
  have found : natural? (d :: rest) = some (ofDigits (d :: rest)) := by
    rw [natural?, digits]
    rfl
  rw [read?]
  · rw [found]
    rfl
  · rintro _ ⟨rfl, rfl⟩
    exact plus rfl
  · rintro _ ⟨rfl, rfl⟩
    exact minus rfl

theorem read?_renderChars {r : Range} (signed : r.low < 0) (n : Int) : r.read? (renderChars n 0) = r.within? n := by
  have whole : ∀ m, placePoint m 0 = Nat.toDigits 10 m := fun _ => rfl
  have digits := read?_digits r (@Nat.toDigits_ne_nil n.natAbs 10) (allDigits_toDigits _)
  rw [renderChars, whole]
  split
  · rename_i negative
    have found : natural? (Nat.toDigits 10 n.natAbs) = some n.natAbs := by
      rw [natural?, allDigits_toDigits, ofDigits_toDigits, List.isEmpty_eq_false_iff.mpr Nat.toDigits_ne_nil]
      rfl
    have value : -(n.natAbs : Int) = n := by omega
    rw [read?, if_pos signed, found]
    simp only [Option.bind_eq_bind, Option.bind_some, value]
  · rename_i positive
    have value : (n.natAbs : Int) = n := by omega
    rw [digits, ofDigits_toDigits, value]

end Number.Range

namespace Decode

def secondsOf (n : Int) (scale : Nat) : Int := n / (10 ^ scale : Nat)

def nanosOf (n : Int) (scale : Nat) : Nat := (n % (10 ^ scale : Nat)).toNat * 10 ^ (9 - scale)

theorem splitScaled_eq (n : Int) {scale : Nat} (fits : scale ≤ 9) :
    splitScaled n scale = .ok (secondsOf n scale, nanosOf n scale) := by
  rw [splitScaled, if_neg (Nat.not_lt.mpr fits)]
  rfl

/-- Seconds and nanos determine the count at a scale and are determined by it. -/
theorem parts_of_sum {n seconds : Int} {scale nanos : Nat} (fits : scale ≤ 9) (nanos_lt : nanos < nanosPerSecond)
    (sum : n * (10 ^ (9 - scale) : Nat) = seconds * nanosPerSecond + nanos) :
    secondsOf n scale = seconds ∧ nanosOf n scale = nanos := by
  have units : ((10 ^ scale : Nat) : Int) * (10 ^ (9 - scale) : Nat) = nanosPerSecond := by
    rw [← Int.natCast_mul, ← Nat.pow_add, Nat.add_sub_cancel' fits]
    rfl
  have unit_pos : (0 : Int) < (10 ^ (9 - scale) : Nat) := Int.natCast_pos.mpr (Nat.pow_pos (by decide))
  have below : (nanos : Int) < nanosPerSecond := Int.ofNat_lt.mpr nanos_lt
  have whole : (seconds * nanosPerSecond + nanos) / nanosPerSecond = seconds := by
    simp only [nanosPerSecond] at below ⊢
    omega
  have rest : (seconds * nanosPerSecond + nanos) % nanosPerSecond = nanos := by
    simp only [nanosPerSecond] at below ⊢
    omega
  constructor
  · rw [secondsOf, ← Int.mul_ediv_mul_of_pos_left n _ unit_pos, units, sum, whole]
  · have scaled : n % (10 ^ scale : Nat) * (10 ^ (9 - scale) : Nat) = nanos := by
      rw [Int.mul_comm, ← Int.mul_emod_mul_of_pos _ _ unit_pos, Int.mul_comm _ n,
        Int.mul_comm _ ((10 ^ scale : Nat) : Int),
        units, sum, rest]
    have nonneg : 0 ≤ n % (10 ^ scale : Nat) := Int.emod_nonneg _ (by positivity)
    rw [nanosOf]
    have : ((n % (10 ^ scale : Nat)).toNat : Int) = n % (10 ^ scale : Nat) := Int.toNat_of_nonneg nonneg
    exact_mod_cast this ▸ scaled

/-- Division of a negative number with remainder, from that of its magnitude. -/
theorem negative_parts {n : Int} (negative : n < 0) {unit : Nat} (positive : 0 < unit) :
    (n.natAbs % unit = 0 → n / unit = -(n.natAbs / unit : Nat) ∧ n % unit = 0) ∧
    (n.natAbs % unit ≠ 0 → n / unit = -(n.natAbs / unit : Nat) - 1 ∧ n % unit = unit - (n.natAbs % unit : Nat)) := by
  have magnitude := Nat.div_add_mod n.natAbs unit
  have below := Nat.mod_lt n.natAbs positive
  have unit_pos : (0 : Int) < unit := by exact_mod_cast positive
  generalize n.natAbs / unit = q at *
  generalize n.natAbs % unit = r at *
  have value : n = -(unit * q + r) := by
    have : (n.natAbs : Int) = unit * q + r := by exact_mod_cast magnitude.symm
    omega
  constructor
  · rintro rfl
    refine (Int.ediv_emod_unique unit_pos).mpr ⟨?_, le_refl _, unit_pos⟩
    rw [value]
    push_cast
    ring
  · intro rest
    refine (Int.ediv_emod_unique unit_pos).mpr ⟨?_, by omega, by omega⟩
    rw [value]
    ring

theorem fractionNanos?_eq {fraction : List Char} {scale : Nat} (length : fraction.length = scale) (fits : scale ≤ 9)
    (digits : allDigits fraction = true) : fractionNanos? fraction = some (ofDigits fraction * 10 ^ (9 - scale)) := by
  rw [fractionNanos?, length, if_pos ⟨fits, digits⟩]
  rfl

def unsignedEpoch? (negative : Bool) (body : List Char) : Option (Int × Nat) := do
  let (whole, fraction) := (cutAt '.' body).getD (body, [])
  let seconds : Int ← if whole.isEmpty then some 0 else Range.int64.read? whole
  let nanos ← fractionNanos? fraction
  some (if !negative then (seconds, nanos)
    else if nanos = 0 then (-seconds, 0)
    else (-seconds - 1, nanosPerSecond - nanos))

theorem epoch?_renderChars_eq (n : Int) (scale : Nat) :
    epoch? (renderChars n scale) = unsignedEpoch? (decide (n < 0)) (placePoint n.natAbs scale) := by
  rw [renderChars]
  by_cases negative : n < 0
  · rw [if_pos negative, decide_eq_true negative]
    rfl
  · rw [if_neg negative, decide_eq_false negative]
    obtain ⟨whole, fraction, placed⟩ := exists_placed n.natAbs scale
    obtain ⟨d, rest, digit, split⟩ := placed.head
    have minus : d ≠ '-' := ne_of_isDigit digit rfl
    rw [split, epoch?]
    · rfl
    · rintro _ ⟨rfl, rfl⟩
      exact minus rfl

theorem unsignedEpoch?_placePoint (negative : Bool) (m : Nat) {scale : Nat} (fits : scale ≤ 9) :
    unsignedEpoch? negative (placePoint m scale) =
      (Range.int64.within? (m / 10 ^ scale : Nat)).map fun seconds =>
        if !negative then (seconds, m % 10 ^ scale * 10 ^ (9 - scale))
        else if m % 10 ^ scale * 10 ^ (9 - scale) = 0 then (-seconds, 0)
        else (-seconds - 1, nanosPerSecond - m % 10 ^ scale * 10 ^ (9 - scale)) := by
  obtain ⟨whole, fraction, placed⟩ := exists_placed m scale
  have filled : whole.isEmpty = false := List.isEmpty_eq_false_iff.mpr placed.whole_ne
  have seconds : Range.int64.read? whole = Range.int64.within? (m / 10 ^ scale : Nat) := by
    rw [Range.read?_digits _ placed.whole_ne placed.whole_digits, placed.whole_value]
  have nanos : fractionNanos? fraction = some (m % 10 ^ scale * 10 ^ (9 - scale)) := by
    rw [fractionNanos?_eq placed.length fits placed.fraction_digits, placed.fraction_value]
  simp only [unsignedEpoch?, placed.cut, filled, seconds, nanos, Bool.false_eq_true, if_false]
  cases Range.int64.within? (m / 10 ^ scale : Nat) <;> rfl

/-- Reading seconds that were written with a fraction. -/
theorem epoch?_renderChars (n : Int) {scale : Nat} (fits : scale ≤ 9) :
    epoch? (renderChars n scale) =
      if ((n.natAbs / 10 ^ scale : Nat) : Int) ∈ Range.int64 then some (secondsOf n scale, nanosOf n scale)
      else none := by
  have unit_pos : 0 < 10 ^ scale := Nat.pow_pos (by decide)
  have units : 10 ^ scale * 10 ^ (9 - scale) = nanosPerSecond := by
    rw [← Nat.pow_add, Nat.add_sub_cancel' fits]
    rfl
  rw [epoch?_renderChars_eq, unsignedEpoch?_placePoint _ _ fits, Range.within?]
  by_cases whole : ((n.natAbs / 10 ^ scale : Nat) : Int) ∈ Range.int64
  · rw [if_pos whole, if_pos whole, Option.map_some, Option.some.injEq, secondsOf, nanosOf]
    by_cases negative : n < 0
    · obtain ⟨exact_parts, borrowed_parts⟩ := negative_parts negative unit_pos
      rw [decide_eq_true negative, if_neg (by simp)]
      by_cases none : n.natAbs % 10 ^ scale = 0
      · obtain ⟨quotient, remainder⟩ := exact_parts none
        rw [none, Nat.zero_mul, if_pos rfl, quotient, remainder]
        simp
      · obtain ⟨quotient, remainder⟩ := borrowed_parts none
        have some_nanos : n.natAbs % 10 ^ scale * 10 ^ (9 - scale) ≠ 0 :=
          Nat.mul_ne_zero none (Nat.pow_pos (by decide)).ne'
        have below := Nat.mod_lt n.natAbs unit_pos
        have rest : ((10 ^ scale : Nat) - (n.natAbs % 10 ^ scale : Nat) : Int).toNat =
            10 ^ scale - n.natAbs % 10 ^ scale := by omega
        rw [if_neg some_nanos, quotient, remainder, rest, Nat.sub_mul, units]
    · have positive : n = n.natAbs := by omega
      simp only [decide_eq_false negative, Bool.not_false, if_true]
      conv_rhs => rw [positive, ← Int.natCast_mod, Int.toNat_natCast, ← Int.natCast_div]
  · rw [if_neg whole, if_neg whole]
    rfl

end Decode
end RowStream

import Mathlib.Algebra.Field.Rat
import Mathlib.Algebra.Order.Ring.Rat
import Mathlib.Tactic.FieldSimp
import Mathlib.Tactic.NormNum
import Mathlib.Tactic.Ring
import RowStream.Decode.Scalar
import RowStream.Proofs.Epochs

/-! # Which texts are decimal numbers

A numeral has an optional sign, digits with at most one point among or around them and an optional exponent.
A text is read as an unscaled integer exactly if it is a numeral that denotes this integer at the scale. -/
namespace RowStream
open RowStream.Text

namespace Number

inductive Sign | bare | plus | minus
deriving Repr, DecidableEq

namespace Sign

def text : Sign → List Char
  | bare => []
  | plus => ['+']
  | minus => ['-']

def isNegative : Sign → Bool
  | minus => true
  | _ => false

def factor (s : Sign) : Int := if s.isNegative then -1 else 1

@[simp] theorem factor_bare : bare.factor = 1 := rfl

@[simp] theorem factor_plus : plus.factor = 1 := rfl

@[simp] theorem factor_minus : minus.factor = -1 := rfl

end Sign

namespace Decimal

structure Exponent where
  mark : Char
  sign : Sign
  digits : List Char
  isMark : mark = 'e' ∨ mark = 'E'
  filled : digits ≠ []
  areDigits : allDigits digits = true

structure Numeral where
  sign : Sign
  whole : List Char
  /-- The digits after the point, if there is a point. -/
  fraction : Option (List Char)
  exponent : Option Exponent
  filled : whole ++ fraction.getD [] ≠ []
  areDigits : allDigits (whole ++ fraction.getD []) = true

namespace Exponent

def text (x : Exponent) : List Char := x.mark :: (x.sign.text ++ x.digits)

def value (x : Exponent) : Int := x.sign.factor * ofDigits x.digits

end Exponent

namespace Numeral

def fractionDigits (n : Numeral) : List Char := n.fraction.getD []

def mantissa (n : Numeral) : List Char := n.whole ++ n.fraction.elim [] ('.' :: ·)

def text (n : Numeral) : List Char := n.sign.text ++ (n.mantissa ++ n.exponent.elim [] Exponent.text)

def shift (n : Numeral) : Int := n.exponent.elim 0 Exponent.value

/-- How many digits stand after the point once it is shifted; fewer than none are zeros before it. -/
def places (n : Numeral) : Int := n.fractionDigits.length - n.shift

def value (n : Numeral) : ℚ :=
  n.sign.factor * (ofDigits n.whole + ofDigits n.fractionDigits / 10 ^ n.fractionDigits.length) * 10 ^ n.shift

def parts (n : Numeral) : Parts := ⟨n.sign.isNegative, n.whole, n.fractionDigits, n.shift⟩

end Numeral
end Decimal

theorem ofDigits_cons (c : Char) (cs : List Char) :
    ofDigits (c :: cs) = 10 ^ cs.length * digitValue c + ofDigits cs := by
  have one : ofDigits [c] = digitValue c := by
    show 10 * 0 + digitValue c = _
    omega
  rw [← List.singleton_append, ofDigits_append, one]

theorem natural?_eq_some {cs : List Char} {n : Nat} :
    natural? cs = some n ↔ cs ≠ [] ∧ allDigits cs = true ∧ ofDigits cs = n := by
  simp [natural?, and_assoc]

/-- A signed range reads digits after an optional sign. -/
theorem Range.read?_eq_some {r : Range} (signed : r.low < 0) {cs : List Char} {x : Int} :
    r.read? cs = some x ↔ ∃ (s : Sign) (ds : List Char),
      cs = s.text ++ ds ∧ ds ≠ [] ∧ allDigits ds = true ∧ s.factor * ofDigits ds = x ∧ x ∈ r := by
  constructor
  · intro read
    unfold Range.read? at read
    split at read
    · obtain ⟨n, found, fits⟩ := Option.bind_eq_some_iff.mp read
      obtain ⟨filled, digits, rfl⟩ := natural?_eq_some.mp found
      obtain ⟨inside, rfl⟩ := within?_eq_some.mp fits
      exact ⟨.plus, _, rfl, filled, digits, by simp, inside⟩
    · rw [if_pos signed] at read
      obtain ⟨n, found, fits⟩ := Option.bind_eq_some_iff.mp read
      obtain ⟨filled, digits, rfl⟩ := natural?_eq_some.mp found
      obtain ⟨inside, rfl⟩ := within?_eq_some.mp fits
      exact ⟨.minus, _, rfl, filled, digits, by simp, inside⟩
    · obtain ⟨n, found, fits⟩ := Option.bind_eq_some_iff.mp read
      obtain ⟨filled, digits, rfl⟩ := natural?_eq_some.mp found
      obtain ⟨inside, rfl⟩ := within?_eq_some.mp fits
      exact ⟨.bare, _, rfl, filled, digits, by simp, inside⟩
  · rintro ⟨s, ds, rfl, filled, digits, value, inside⟩
    have found : natural? ds = some (ofDigits ds) := natural?_eq_some.mpr ⟨filled, digits, rfl⟩
    cases s with
    | bare =>
      rw [Sign.text, List.nil_append, read?_digits r filled digits]
      obtain rfl : (ofDigits ds : Int) = x := by simpa using value
      exact within?_eq_some.mpr ⟨inside, rfl⟩
    | plus =>
      rw [Sign.text, List.singleton_append, read?, found]
      obtain rfl : (ofDigits ds : Int) = x := by simpa using value
      exact within?_eq_some.mpr ⟨inside, rfl⟩
    | minus =>
      rw [Sign.text, List.singleton_append, read?, if_pos signed, found]
      obtain rfl : -(ofDigits ds : Int) = x := by simpa using value
      exact within?_eq_some.mpr ⟨inside, rfl⟩

namespace Decimal

theorem exists_sign (cs : List Char) :
    ∃ (s : Sign) (body : List Char), cutSign cs = (s.isNegative, body) ∧ cs = s.text ++ body := by
  unfold cutSign
  split
  · exact ⟨.minus, _, rfl, rfl⟩
  · exact ⟨.plus, _, rfl, rfl⟩
  · exact ⟨.bare, _, rfl, rfl⟩

theorem cutSign_append (s : Sign) {c : Char} {cs : List Char} (noSign : c ≠ '-' ∧ c ≠ '+') :
    cutSign (s.text ++ c :: cs) = (s.isNegative, c :: cs) := by
  cases s <;> simp [Sign.text, cutSign, Sign.isNegative, noSign]

theorem cutExponent_eq_some {cs mantissa : List Char} {x : Int} (h : cutExponent cs = some (mantissa, x)) :
    ∃ e : Option Exponent, cs = mantissa ++ e.elim [] Exponent.text ∧ e.elim 0 Exponent.value = x ∧
      x ∈ Range.int64 := by
  rw [cutExponent, List.span_eq_takeWhile_dropWhile] at h
  have split := @List.takeWhile_append_dropWhile _ (fun c => !isExponentMark c) cs
  cases rest : cs.dropWhile (fun c => !isExponentMark c) with
  | nil =>
    rw [rest] at h split
    cases h
    exact ⟨none, split.symm, rfl, by decide⟩
  | cons mark tail =>
    rw [rest] at h split
    obtain ⟨y, read, same⟩ := Option.bind_eq_some_iff.mp h
    cases same
    obtain ⟨s, ds, rfl, filled, digits, value, inside⟩ := (Range.read?_eq_some (by decide)).mp read
    have isMark : mark = 'e' ∨ mark = 'E' := by
      have head := List.head?_dropWhile_not (fun c => !isExponentMark c) cs
      rw [rest] at head
      simpa [isExponentMark, or_iff_not_imp_left] using head
    exact ⟨some ⟨mark, s, ds, isMark, filled, digits⟩, split.symm, value, inside⟩

theorem cutExponent_append {mantissa : List Char} (unmarked : ∀ c ∈ mantissa, isExponentMark c = false)
    {e : Option Exponent} (inside : e.elim 0 Exponent.value ∈ Range.int64) :
    cutExponent (mantissa ++ e.elim [] Exponent.text) = some (mantissa, e.elim 0 Exponent.value) := by
  have plain : ∀ c ∈ mantissa, (!isExponentMark c) = true := fun c hc => by rw [unmarked c hc]; rfl
  rw [cutExponent, List.span_eq_takeWhile_dropWhile, List.takeWhile_append_of_pos plain,
    List.dropWhile_append_of_pos plain]
  cases e with
  | none => simp
  | some e =>
    have marked : isExponentMark e.mark = true := by
      rcases e.isMark with same | same <;> rw [same] <;> rfl
    have read := (Range.read?_eq_some (r := Range.int64) (by decide)).mpr
      ⟨e.sign, e.digits, rfl, e.filled, e.areDigits, rfl, inside⟩
    simp [Exponent.text, Exponent.value, marked, read]

theorem exists_point (mantissa : List Char) :
    ∃ (whole : List Char) (fraction : Option (List Char)),
      (cutAt '.' mantissa).getD (mantissa, []) = (whole, fraction.getD []) ∧
      mantissa = whole ++ fraction.elim [] ('.' :: ·) := by
  cases cut : cutAt '.' mantissa with
  | none => exact ⟨mantissa, none, rfl, (List.append_nil _).symm⟩
  | some halves => exact ⟨halves.1, some halves.2, rfl, cutAt_eq_some cut⟩

namespace Numeral
variable (n : Numeral)

theorem mem_mantissa {c : Char} (h : c ∈ n.mantissa) : isDigit c = true ∨ c = '.' := by
  have digits := allDigits_iff.mp n.areDigits
  rcases List.mem_append.mp h with before | after
  · exact .inl (digits c (List.mem_append_left _ before))
  · cases written : n.fraction with
    | none => simp [written] at after
    | some fraction =>
      rw [written] at after digits
      rcases List.mem_cons.mp after with point | later
      · exact .inr point
      · exact .inl (digits c (List.mem_append_right _ later))

theorem mantissa_ne_nil : n.mantissa ≠ [] := by
  intro none
  obtain ⟨whole, fraction⟩ := List.append_eq_nil_iff.mp none
  apply n.filled
  cases written : n.fraction with
  | none => simpa [written] using whole
  | some digits => simp [written] at fraction

theorem cut_mantissa : (cutAt '.' n.mantissa).getD (n.mantissa, []) = (n.whole, n.fractionDigits) := by
  have noPoint : '.' ∉ n.whole :=
    not_mem_of_allDigits (allDigits_append.mp n.areDigits).1 (show isDigit '.' = false by rfl)
  rw [mantissa, fractionDigits]
  cases n.fraction with
  | none =>
    rw [Option.elim_none, List.append_nil, cutAt_eq_none noPoint]
    rfl
  | some fraction =>
    rw [Option.elim_some, cutAt_append noPoint]
    rfl

theorem cutSign_text : cutSign n.text = (n.sign.isNegative, n.mantissa ++ n.exponent.elim [] Exponent.text) := by
  obtain ⟨c, cs, start⟩ := List.exists_cons_of_ne_nil n.mantissa_ne_nil
  have noSign : c ≠ '-' ∧ c ≠ '+' := by
    rcases n.mem_mantissa (start ▸ List.mem_cons_self) with digit | rfl
    · exact ⟨ne_of_isDigit digit rfl, ne_of_isDigit digit rfl⟩
    · decide
  rw [text, start, List.cons_append, cutSign_append _ noSign]

theorem cutExponent_mantissa (inside : n.shift ∈ Range.int64) :
    cutExponent (n.mantissa ++ n.exponent.elim [] Exponent.text) = some (n.mantissa, n.shift) := by
  refine cutExponent_append (fun c hc => ?_) inside
  rcases n.mem_mantissa hc with digit | rfl
  · have e := ne_of_isDigit digit (show isDigit 'e' = false by rfl)
    have E := ne_of_isDigit digit (show isDigit 'E' = false by rfl)
    simp [isExponentMark, e, E]
  · rfl

end Numeral

/-- A text has parts exactly if it is a numeral with an exponent of 64 bits. -/
theorem Parts.read?_eq_some {cs : List Char} {p : Parts} :
    Parts.read? cs = some p ↔ ∃ n : Numeral, cs = n.text ∧ n.shift ∈ Range.int64 ∧ n.parts = p := by
  constructor
  · intro read
    obtain ⟨s, body, sign, rfl⟩ := exists_sign cs
    rw [Parts.read?, sign] at read
    obtain ⟨⟨mantissa, x⟩, cut, read⟩ := Option.bind_eq_some_iff.mp read
    obtain ⟨e, rfl, rfl, inside⟩ := cutExponent_eq_some cut
    obtain ⟨whole, fraction, point, rfl⟩ := exists_point mantissa
    simp only [point, Option.ite_none_left_eq_some, Bool.or_eq_true, not_or, Bool.not_eq_true, Bool.not_eq_false',
      List.isEmpty_eq_false_iff, Option.some.injEq] at read
    obtain ⟨⟨filled, areDigits⟩, rfl⟩ := read
    exact ⟨⟨s, whole, fraction, e, filled, areDigits⟩, rfl, inside, rfl⟩
  · rintro ⟨n, rfl, inside, rfl⟩
    have filled : (n.whole ++ n.fractionDigits).isEmpty = false := List.isEmpty_eq_false_iff.mpr n.filled
    have digits : allDigits (n.whole ++ n.fractionDigits) = true := n.areDigits
    rw [Parts.read?, n.cutSign_text]
    simp only [n.cutExponent_mantissa inside, Option.bind_eq_bind, Option.bind_some, n.cut_mantissa, filled, digits]
    rfl

theorem all_zero_iff {ds : List Char} (digits : allDigits ds = true) : ds.all (· == '0') = true ↔ ofDigits ds = 0 := by
  induction ds with
  | nil => simp [ofDigits]
  | cons d ds ih =>
    rw [allDigits, List.all_cons, Bool.and_eq_true] at digits
    have zero : d = '0' ↔ digitValue d = 0 := by
      obtain ⟨low, high⟩ := isDigit_iff.mp digits.1
      rw [digitValue, ← Char.toNat_inj]
      show d.toNat = 48 ↔ d.toNat - 48 = 0
      omega
    rw [List.all_cons, Bool.and_eq_true, beq_iff_eq, ih digits.2, zero, ofDigits_cons]
    simp

theorem ofDigits_padded (ds : List Char) (pad : Nat) :
    ofDigits (ds ++ List.replicate pad '0') = ofDigits ds * 10 ^ pad := by
  rw [ofDigits_append, ofDigits_zeros, List.length_replicate, Nat.add_zero, Nat.mul_comm]

/-- Dropping zeros divides by a power of ten, where it can be divided. -/
theorem dropZeros?_value {count : Nat} {ds : List Char} (digits : allDigits ds = true) (n : Nat) :
    (∃ kept, dropZeros? count ds = some kept ∧ ofDigits kept = n) ↔ ofDigits ds = 10 ^ count * n := by
  have split := List.take_append_drop (ds.length - count) ds
  have parts := allDigits_append.mp (split ▸ digits)
  have value := ofDigits_append (ds.take (ds.length - count)) (ds.drop (ds.length - count))
  rw [split] at value
  have small := ofDigits_lt parts.2
  have found : (∃ kept, dropZeros? count ds = some kept ∧ ofDigits kept = n) ↔
      ofDigits (ds.drop (ds.length - count)) = 0 ∧ ofDigits (ds.take (ds.length - count)) = n := by
    rw [← all_zero_iff parts.2]
    simp [dropZeros?]
  rw [found]
  by_cases enough : count ≤ ds.length
  · have length : (ds.drop (ds.length - count)).length = count := by
      rw [List.length_drop]
      omega
    rw [length] at value small
    rw [value]
    constructor
    · rintro ⟨none, rfl⟩
      rw [none, Nat.add_zero]
    · intro same
      have none : ofDigits (ds.drop (ds.length - count)) = 0 := by
        have := congrArg (· % 10 ^ count) same
        simpa [Nat.mod_eq_of_lt small] using this
      rw [none, Nat.add_zero] at same
      exact ⟨none, Nat.eq_of_mul_eq_mul_left (Nat.pow_pos (by decide)) same⟩
  · -- All digits go, so that nothing but zero is left.
    have all : ds.length - count = 0 := by omega
    rw [all, List.drop_zero, List.take_zero, show ofDigits [] = 0 by rfl]
    have less : ofDigits ds < 10 ^ count :=
      (ofDigits_lt digits).trans_le (Nat.pow_le_pow_right (by decide) (by omega))
    constructor
    · rintro ⟨none, rfl⟩
      rw [none, Nat.mul_zero]
    · intro same
      have : n = 0 := by
        by_contra positive
        have := Nat.le_mul_of_pos_right (10 ^ count) (Nat.pos_of_ne_zero positive)
        omega
      simp_all

theorem shiftedUp_iff {d n pad : Nat} : (d : ℚ) * 10 ^ (pad : Int) = n ↔ d * 10 ^ pad = n := by
  rw [zpow_natCast]
  exact_mod_cast Iff.rfl

theorem shiftedDown_iff {d n excess : Nat} : (d : ℚ) * 10 ^ (-(excess : Int)) = n ↔ d = 10 ^ excess * n := by
  have unit : (10 : ℚ) ^ excess ≠ 0 := pow_ne_zero _ (by norm_num)
  rw [zpow_neg, zpow_natCast, ← div_eq_mul_inv, div_eq_iff unit, mul_comm]
  exact_mod_cast Iff.rfl

/-- The unscaled digits denote the digits of the literal, shifted to the scale. -/
theorem scaledDigits?_value {p : Parts} {scale : Nat} (digits : allDigits (p.whole ++ p.fraction) = true) (n : Nat) :
    (∃ ds, p.scaledDigits? scale = some ds ∧ ofDigits ds = n) ↔
      (p.fraction.length - p.exponent : Int) ∈ Range.int64 ∧ (scale - (p.fraction.length - p.exponent) : Int) ≤ 4096 ∧
      (ofDigits (p.whole ++ p.fraction) : ℚ) * 10 ^ (scale - (p.fraction.length - p.exponent) : Int) = n := by
  generalize hp : (p.fraction.length - p.exponent : Int) = places
  by_cases inside : places ∈ Range.int64
  · have found : Range.int64.within? places = some places := Range.within?_eq_some.mpr ⟨inside, rfl⟩
    simp only [Parts.scaledDigits?, hp, found, Option.bind_eq_bind, Option.bind_some, inside, true_and]
    by_cases few : places ≤ scale
    · obtain ⟨pad, padded⟩ : ∃ pad : Nat, (scale - places : Int) = pad := ⟨(scale - places).toNat, by omega⟩
      rw [if_pos few, padded, Int.toNat_natCast, shiftedUp_iff, ← ofDigits_padded]
      by_cases short : pad ≤ maxPadding
      · have bound : (pad : Int) ≤ 4096 := Int.ofNat_le.mpr short
        simp [short, bound]
      · have bound : ¬(pad : Int) ≤ 4096 := fun h => short (Int.ofNat_le.mp h)
        simp [short, bound]
    · obtain ⟨excess, left⟩ : ∃ excess : Nat, (places - scale : Int) = excess := ⟨(places - scale).toNat, by omega⟩
      have negative : (scale - places : Int) = -(excess : Int) := by omega
      have bound : -(excess : Int) ≤ 4096 := by omega
      rw [if_neg few, left, negative, Int.toNat_natCast, dropZeros?_value digits, shiftedDown_iff]
      simp only [bound, true_and]
  · have none : Range.int64.within? places = none := if_neg inside
    simp [Parts.scaledDigits?, hp, none, inside]

namespace Numeral
variable (n : Numeral)

/-- The unscaled digits, shifted by the places. -/
theorem value_mul_pow (scale : Nat) :
    n.value * 10 ^ scale =
      n.sign.factor * (ofDigits (n.whole ++ n.fractionDigits) * 10 ^ ((scale : Int) - n.places)) := by
  have unit : (10 : ℚ) ≠ 0 := by norm_num
  have exponent : ((scale : Int) - n.places) = scale - n.fractionDigits.length + n.shift := by
    rw [places]
    ring
  rw [exponent, zpow_add₀ unit, zpow_sub₀ unit, zpow_natCast, zpow_natCast, ofDigits_append, value]
  push_cast
  field_simp

end Numeral

theorem factor_mul_eq_iff (s : Sign) {q : ℚ} (nonneg : 0 ≤ q) {u : Int} :
    (s.factor : ℚ) * q = u ↔ ∃ n : Nat, q = n ∧ s.factor * n = u := by
  have signs : s.factor = 1 ∨ s.factor = -1 := by cases s <;> simp
  constructor
  · intro same
    have whole : q = (s.factor * u : Int) := by
      rcases signs with one | minus
      · simpa [one] using same
      · simp only [minus, Int.reduceNeg, Int.cast_neg, Int.cast_one, neg_mul, one_mul] at same ⊢
        rw [← same, neg_neg]
    rw [whole] at nonneg
    obtain ⟨n, hn⟩ := Int.eq_ofNat_of_zero_le (Int.cast_nonneg_iff.mp nonneg)
    refine ⟨n, by rw [whole, hn]; rfl, ?_⟩
    rw [← hn]
    rcases signs with one | minus
    · simp [one]
    · simp [minus]
  · rintro ⟨n, rfl, rfl⟩
    push_cast
    rfl

/-- What is read at a scale is exactly what a numeral denotes. -/
theorem unscaled?_eq_some {cs : List Char} {scale : Nat} {u : Int} :
    unscaled? cs scale = some u ↔ ∃ n : Numeral,
      trim cs = n.text ∧ n.shift ∈ Range.int64 ∧ n.places ∈ Range.int64 ∧ (scale - n.places : Int) ≤ 4096 ∧
      n.value * 10 ^ scale = u := by
  have signed (n : Numeral) (d : Nat) : (if n.parts.negative = true then -(d : Int) else d) = n.sign.factor * d := by
    cases sign : n.sign <;> simp [Numeral.parts, sign, Sign.isNegative]
  have nonneg (n : Numeral) : 0 ≤ (ofDigits (n.whole ++ n.fractionDigits) : ℚ) * 10 ^ ((scale : Int) - n.places) :=
    mul_nonneg (Nat.cast_nonneg _) (zpow_nonneg (by norm_num) _)
  have digits (n : Numeral) (d : Nat) := @scaledDigits?_value n.parts scale n.areDigits d
  simp only [unscaled?, Option.bind_eq_bind, Option.bind_eq_some_iff, Option.some.injEq, Parts.read?_eq_some]
  constructor
  · rintro ⟨_, ⟨n, text, inside, rfl⟩, ds, scaled, rfl⟩
    obtain ⟨places, padding, value⟩ := (digits n _).mp ⟨ds, scaled, rfl⟩
    refine ⟨n, text, inside, places, padding, ?_⟩
    rw [n.value_mul_pow, factor_mul_eq_iff _ (nonneg n)]
    exact ⟨_, value, (signed n _).symm⟩
  · rintro ⟨n, text, inside, places, padding, value⟩
    rw [n.value_mul_pow, factor_mul_eq_iff _ (nonneg n)] at value
    obtain ⟨d, denoted, rfl⟩ := value
    obtain ⟨ds, scaled, rfl⟩ := (digits n d).mpr ⟨places, padding, denoted⟩
    exact ⟨n.parts, ⟨n, text, inside, rfl⟩, ds, scaled, signed n _⟩

end Decimal
end Number

namespace Decode
open RowStream.Number RowStream.Number.Decimal

/-- A text is accepted as a decimal number of a scale exactly if its trimmed form is a numeral whose exponent
and whose places fit 64 bits, which is a whole number of units at the scale and needs no more than 4096 zeros
to get there. The accepted number is that number of units: nothing is rounded. -/
theorem parseFixed_eq_ok {text : String} {scale : Nat} {u : Int} :
    parseFixed text scale = .ok u ↔ ∃ n : Numeral,
      trimmed text = n.text ∧ n.shift ∈ Range.int64 ∧ n.places ∈ Range.int64 ∧ n.value * 10 ^ scale = u ∧
      (scale - n.places : Int) ≤ 4096 := by
  have found : parseFixed text scale = .ok u ↔ unscaled? text.toList scale = some u := by
    rw [parseFixed]
    cases unscaled? text.toList scale <;> simp [orRefused]
  rw [found, unscaled?_eq_some, trimmed]
  simp only [and_comm (a := (scale - _ : Int) ≤ 4096)]

example : parseFixed " -1.500e1" 1 = .ok (-150) := rfl

end Decode
end RowStream

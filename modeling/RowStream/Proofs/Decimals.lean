import Mathlib.Data.List.Induction
import Mathlib.Data.List.TakeDrop
import Mathlib.Data.List.TakeWhile
import Mathlib.Tactic.Ring
import RowStream.Number.Decimal

/-! # Decimal texts

A decimal text has an optional sign, digits, and after a point exactly as many digits as its scale says.
Reading such a text gives back the number. -/
namespace RowStream
open RowStream.Text

namespace Number

theorem ofDigits_eq (cs : List Char) : ofDigits cs = Nat.ofDigitChars 10 cs 0 := rfl

@[simp] theorem ofDigits_toDigits (n : Nat) : ofDigits (Nat.toDigits 10 n) = n := by
  rw [ofDigits_eq, Nat.ofDigitChars_ten_toDigits]

theorem ofDigits_append (front back : List Char) :
    ofDigits (front ++ back) = 10 ^ back.length * ofDigits front + ofDigits back := by
  rw [ofDigits_eq, Nat.ofDigitChars_append, Nat.ofDigitChars_eq_ofDigitChars_zero]
  rfl

@[simp] theorem ofDigits_zeros (count : Nat) : ofDigits (List.replicate count '0') = 0 := by
  rw [ofDigits_eq, Nat.ofDigitChars_replicate_zero, Nat.mul_zero]

theorem isDigit_iff {c : Char} : isDigit c = true ↔ 48 ≤ c.toNat ∧ c.toNat ≤ 57 := by
  rw [isDigit, Bool.and_eq_true, decide_eq_true_iff, decide_eq_true_iff]
  rfl

theorem isDigit_of_mem_toDigits {n : Nat} {c : Char} (h : c ∈ Nat.toDigits 10 n) : isDigit c = true := by
  have digit := Nat.isDigit_of_mem_toDigits (by decide) (by decide) h
  rw [Char.isDigit, Bool.and_eq_true, decide_eq_true_iff, decide_eq_true_iff] at digit
  rw [isDigit, Bool.and_eq_true, decide_eq_true_iff, decide_eq_true_iff]
  exact digit

theorem allDigits_iff {cs : List Char} : allDigits cs = true ↔ ∀ c ∈ cs, isDigit c = true := by
  rw [allDigits, List.all_eq_true]

theorem allDigits_append {front back : List Char} :
    allDigits (front ++ back) = true ↔ allDigits front = true ∧ allDigits back = true := by
  rw [allDigits, List.all_append, Bool.and_eq_true]
  rfl

theorem allDigits_toDigits (n : Nat) : allDigits (Nat.toDigits 10 n) = true :=
  allDigits_iff.mpr fun _ h => isDigit_of_mem_toDigits h

theorem allDigits_zeros (count : Nat) : allDigits (List.replicate count '0') = true := by
  rw [allDigits_iff]
  intro c h
  rw [List.eq_of_mem_replicate h]
  rfl

theorem ofDigits_lt {cs : List Char} (h : allDigits cs = true) : ofDigits cs < 10 ^ cs.length := by
  induction cs using List.reverseRecOn with
  | nil => exact Nat.zero_lt_one
  | append_singleton cs c ih =>
    obtain ⟨front, last⟩ := allDigits_append.mp h
    have here := isDigit_iff.mp (allDigits_iff.mp last c List.mem_cons_self)
    have before := ih front
    have value : ofDigits [c] = c.toNat - 48 := by
      show 10 * 0 + (c.toNat - 48) = _
      omega
    rw [ofDigits_append, value, List.length_append, List.length_singleton, Nat.pow_succ]
    omega

end Number

namespace Text

theorem cutAt_eq_none {sep : Char} {cs : List Char} (h : sep ∉ cs) : cutAt sep cs = none := by
  induction cs with
  | nil => rfl
  | cons c cs ih =>
    have first : c ≠ sep := fun same => h (same ▸ List.mem_cons_self)
    rw [cutAt, if_neg first, ih fun later => h (List.mem_cons_of_mem c later)]
    rfl

theorem cutAt_append {sep : Char} {front : List Char} (h : sep ∉ front) (back : List Char) :
    cutAt sep (front ++ sep :: back) = some (front, back) := by
  induction front with
  | nil => simp [cutAt]
  | cons c cs ih =>
    have first : c ≠ sep := fun same => h (same ▸ List.mem_cons_self)
    rw [List.cons_append, cutAt, if_neg first, ih fun later => h (List.mem_cons_of_mem c later)]
    rfl

/-- No digit is one of the other characters of a number. -/
theorem not_mem_of_allDigits {cs : List Char} (h : allDigits cs = true) {c : Char} (other : isDigit c = false) :
    c ∉ cs := by
  intro member
  rw [Number.allDigits_iff.mp h c member] at other
  cases other

/-- A text without blanks is its own trimmed form. -/
theorem trim_eq_self_of_forall {cs : List Char} (h : ∀ c ∈ cs, isBlank c = false) : trim cs = cs := by
  apply trim_eq_self
  · intro c first
    exact h c (List.mem_of_mem_head? first)
  · intro c last
    exact h c (List.mem_of_mem_getLast? last)

end Text

namespace Number.Decimal

/-- Digits before and after the point of `n / 10 ^ scale`. -/
structure Placed (n scale : Nat) (whole fraction : List Char) : Prop where
  text : placePoint n scale = if scale = 0 then whole else whole ++ '.' :: fraction
  whole_ne : whole ≠ []
  whole_digits : allDigits whole = true
  fraction_digits : allDigits fraction = true
  length : fraction.length = scale
  whole_value : ofDigits whole = n / 10 ^ scale
  fraction_value : ofDigits fraction = n % 10 ^ scale
  leading : whole = ['0'] ∨ whole.head? ≠ some '0'

/-- Positive numbers are written without leading zeros. -/
theorem head_toDigits {n : Nat} (pos : 0 < n) : (Nat.toDigits 10 n).head? ≠ some '0' := by
  intro zero
  obtain ⟨rest, split⟩ := List.head?_eq_some_iff.mp zero
  have digits := allDigits_toDigits n
  rw [split, ← List.singleton_append, allDigits_append] at digits
  have value : n = ofDigits rest := by
    rw [← ofDigits_toDigits n, split, ← List.singleton_append, ofDigits_append, show ofDigits ['0'] = 0 by rfl,
      Nat.mul_zero, Nat.zero_add]
  have small : n < 10 ^ rest.length := by
    rw [value]
    exact ofDigits_lt digits.2
  cases rest with
  | nil =>
    rw [List.length_nil, Nat.pow_zero] at small
    omega
  | cons d ds =>
    have long := (Nat.length_toDigits_le_iff (by decide) (Nat.succ_pos _)).mpr small
    rw [split, List.length_cons (a := '0')] at long
    exact absurd long (Nat.not_succ_le_self _)

theorem exists_placed (n scale : Nat) : ∃ whole fraction, Placed n scale whole fraction := by
  have digits := allDigits_toDigits n
  by_cases none : scale = 0
  · subst none
    refine ⟨Nat.toDigits 10 n, [], ?_, Nat.toDigits_ne_nil, digits, rfl, rfl, ?_, ?_, ?_⟩
    · simp [placePoint]
    · rw [ofDigits_toDigits, Nat.pow_zero, Nat.div_one]
    · rw [Nat.pow_zero, Nat.mod_one]
      rfl
    · rcases Nat.eq_zero_or_pos n with rfl | pos
      · exact .inl (Nat.toDigits_zero 10)
      · exact .inr (head_toDigits pos)
  by_cases short : (Nat.toDigits 10 n).length ≤ scale
  · have small : n < 10 ^ scale := (Nat.length_toDigits_le_iff (by decide) (Nat.pos_of_ne_zero none)).mp short
    refine ⟨['0'], List.replicate (scale - (Nat.toDigits 10 n).length) '0' ++ Nat.toDigits 10 n, ?_, by simp, rfl,
      ?_, ?_, ?_, ?_, .inl rfl⟩
    · simp [placePoint, none, short]
    · exact allDigits_append.mpr ⟨allDigits_zeros _, digits⟩
    · rw [List.length_append, List.length_replicate]
      omega
    · rw [Nat.div_eq_of_lt small]
      rfl
    · rw [ofDigits_append, ofDigits_zeros, ofDigits_toDigits, Nat.mod_eq_of_lt small, Nat.mul_zero, Nat.zero_add]
  · have split := List.take_append_drop ((Nat.toDigits 10 n).length - scale) (Nat.toDigits 10 n)
    rw [← split, allDigits_append] at digits
    obtain ⟨whole_digits, fraction_digits⟩ := digits
    have length : ((Nat.toDigits 10 n).drop ((Nat.toDigits 10 n).length - scale)).length = scale := by
      rw [List.length_drop]
      omega
    have value : n = 10 ^ scale * ofDigits ((Nat.toDigits 10 n).take ((Nat.toDigits 10 n).length - scale)) +
        ofDigits ((Nat.toDigits 10 n).drop ((Nat.toDigits 10 n).length - scale)) := by
      conv_lhs => rw [← ofDigits_toDigits n, ← split, ofDigits_append, length]
    have small := ofDigits_lt fraction_digits
    rw [length] at small
    have pos : 0 < n := by
      rcases Nat.eq_zero_or_pos n with rfl | pos
      · rw [Nat.toDigits_zero, List.length_singleton] at short
        omega
      · exact pos
    refine ⟨_, _, ?_, ?_, whole_digits, fraction_digits, length, ?_, ?_, ?_⟩
    · simp [placePoint, none, short]
    · rw [← List.length_pos_iff, List.length_take]
      omega
    · conv_rhs => rw [value]
      rw [Nat.mul_add_div (Nat.pow_pos (by decide)), Nat.div_eq_of_lt small, Nat.add_zero]
    · conv_rhs => rw [value]
      rw [Nat.mul_add_mod, Nat.mod_eq_of_lt small]
    · right
      rw [List.head?_take, if_neg (by omega)]
      exact head_toDigits pos

namespace Placed
variable {n scale : Nat} {whole fraction : List Char}

theorem cut (h : Placed n scale whole fraction) :
    (cutAt '.' (placePoint n scale)).getD (placePoint n scale, []) = (whole, fraction) := by
  have noPoint := not_mem_of_allDigits h.whole_digits (show isDigit '.' = false by rfl)
  rw [h.text]
  split
  · rename_i none
    rw [cutAt_eq_none noPoint, List.eq_nil_of_length_eq_zero (h.length.trans none)]
    rfl
  · rw [cutAt_append noPoint]
    rfl

theorem mem (h : Placed n scale whole fraction) {c : Char} (member : c ∈ placePoint n scale) :
    isDigit c = true ∨ c = '.' := by
  have whole_digits := allDigits_iff.mp h.whole_digits
  have fraction_digits := allDigits_iff.mp h.fraction_digits
  rw [h.text] at member
  split at member
  · exact .inl (whole_digits c member)
  · rcases List.mem_append.mp member with before | after
    · exact .inl (whole_digits c before)
    · rcases List.mem_cons.mp after with point | after
      · exact .inr point
      · exact .inl (fraction_digits c after)

theorem head (h : Placed n scale whole fraction) : ∃ d rest, isDigit d = true ∧ placePoint n scale = d :: rest := by
  obtain ⟨d, rest, split⟩ := List.exists_cons_of_ne_nil h.whole_ne
  have digit := allDigits_iff.mp h.whole_digits d (split ▸ List.mem_cons_self)
  rw [h.text, split]
  by_cases none : scale = 0
  · exact ⟨d, rest, digit, if_pos none⟩
  · exact ⟨d, rest ++ '.' :: fraction, digit, if_neg none⟩

end Placed

theorem mem_placePoint {n scale : Nat} {c : Char} (h : c ∈ placePoint n scale) : isDigit c = true ∨ c = '.' := by
  obtain ⟨whole, fraction, placed⟩ := exists_placed n scale
  exact placed.mem h

theorem mem_renderChars {n : Int} {scale : Nat} {c : Char} (h : c ∈ renderChars n scale) :
    isDigit c = true ∨ c = '.' ∨ c = '-' := by
  rw [renderChars] at h
  split at h
  · rcases List.mem_cons.mp h with minus | magnitude
    · exact .inr (.inr minus)
    · exact (mem_placePoint magnitude).imp_right .inl
  · exact (mem_placePoint h).imp_right .inl

theorem isBlank_of_isDigit {c : Char} (h : isDigit c = true) : isBlank c = false := by
  obtain ⟨low, high⟩ := isDigit_iff.mp h
  simp only [isBlank, Bool.or_eq_false_iff, Bool.and_eq_false_iff, decide_eq_false_iff_not, beq_eq_false_iff_ne]
  omega

theorem isBlank_renderChars {n : Int} {scale : Nat} {c : Char} (h : c ∈ renderChars n scale) : isBlank c = false := by
  rcases mem_renderChars h with digit | rfl | rfl
  · exact isBlank_of_isDigit digit
  · rfl
  · rfl

theorem trim_renderChars (n : Int) (scale : Nat) : trim (renderChars n scale) = renderChars n scale :=
  trim_eq_self_of_forall fun _ h => isBlank_renderChars h

theorem ne_of_isDigit {c d : Char} (h : isDigit c = true) (other : isDigit d = false) : c ≠ d := by
  rintro rfl
  rw [h] at other
  cases other

theorem cutSign_renderChars (n : Int) (scale : Nat) :
    cutSign (renderChars n scale) = (decide (n < 0), placePoint n.natAbs scale) := by
  rw [renderChars]
  by_cases negative : n < 0
  · rw [if_pos negative, decide_eq_true negative]
    rfl
  · rw [if_neg negative, decide_eq_false negative]
    obtain ⟨whole, fraction, placed⟩ := exists_placed n.natAbs scale
    obtain ⟨d, rest, digit, split⟩ := placed.head
    rw [split]
    have minus : d ≠ '-' := ne_of_isDigit digit rfl
    have plus : d ≠ '+' := ne_of_isDigit digit rfl
    simp [cutSign, minus, plus]

theorem cutExponent_placePoint (n scale : Nat) : cutExponent (placePoint n scale) = some (placePoint n scale, 0) := by
  have plain : ∀ c ∈ placePoint n scale, (!isExponentMark c) = true := by
    intro c member
    rcases mem_placePoint member with digit | rfl
    · have e := ne_of_isDigit digit (show isDigit 'e' = false by rfl)
      have E := ne_of_isDigit digit (show isDigit 'E' = false by rfl)
      simp [isExponentMark, e, E]
    · rfl
  rw [cutExponent, List.span_eq_takeWhile_dropWhile, List.takeWhile_eq_self_iff.mpr plain,
    List.dropWhile_eq_nil_iff.mpr plain]

/-- What is written at a scale is read back at that scale. -/
theorem unscaled?_renderChars (n : Int) {scale : Nat} (fits : (scale : Int) ∈ Range.int64) :
    unscaled? (renderChars n scale) scale = some n := by
  obtain ⟨whole, fraction, placed⟩ := exists_placed n.natAbs scale
  have parts : Parts.read? (renderChars n scale) = some ⟨decide (n < 0), whole, fraction, 0⟩ := by
    have digits : allDigits (whole ++ fraction) = true :=
      allDigits_append.mpr ⟨placed.whole_digits, placed.fraction_digits⟩
    have filled : (whole ++ fraction).isEmpty = false := by simp [placed.whole_ne]
    rw [Parts.read?, cutSign_renderChars]
    simp only [cutExponent_placePoint, Option.bind_eq_bind, Option.bind_some, placed.cut, digits, filled]
    rfl
  have scaled : Parts.scaledDigits? ⟨decide (n < 0), whole, fraction, 0⟩ scale = some (whole ++ fraction) := by
    have places : Range.int64.within? ((fraction.length : Int) - 0) = some (scale : Int) := by
      rw [placed.length, Int.sub_zero]
      exact Range.within?_eq_some.mpr ⟨fits, rfl⟩
    simp only [Parts.scaledDigits?, places, Option.bind_eq_bind, Option.bind_some]
    simp
  have value : ofDigits (whole ++ fraction) = n.natAbs := by
    rw [ofDigits_append, placed.length, placed.whole_value, placed.fraction_value, Nat.div_add_mod]
  rw [unscaled?, trim_renderChars, parts]
  simp only [Option.bind_eq_bind, Option.bind_some, scaled, value, Option.some.injEq, decide_eq_true_eq]
  omega

end Number.Decimal
end RowStream

import Mathlib.Data.List.DropRight
import RowStream.Calendar.Reading
import RowStream.Calendar.Render
import RowStream.Proofs.Decimals

/-! # Trimmed texts and padded digits

Trimming drops the blanks at both ends and nothing else. Digits of a fixed width are read back whatever
follows them. -/
namespace RowStream

namespace Text

theorem trim_eq (cs : List Char) : trim cs = (trimLeft cs).rdropWhile isBlank := rfl

theorem trim_append_blank {c : Char} (blank : isBlank c = true) (cs : List Char) : trim (cs ++ [c]) = trim cs := by
  rw [trim_eq, trim_eq, trimLeft, trimLeft, List.dropWhile_append]
  split
  · rename_i empty
    rw [List.isEmpty_iff.mp empty, List.dropWhile_cons_of_pos blank]
    rfl
  · exact List.rdropWhile_concat_pos _ _ _ blank

theorem trim_eq_trimLeft {cs : List Char} (last : ∀ c, cs.getLast? = some c → isBlank c = false) :
    trim cs = trimLeft cs := by
  rw [trim_eq, List.rdropWhile_eq_self_iff]
  intro filled
  have suffix : trimLeft cs <:+ cs := List.dropWhile_suffix isBlank
  rw [suffix.getLast filled, Bool.not_eq_true]
  exact last _ (List.getLast?_eq_some_getLast _)

/-- No trimmed text begins with a blank. -/
theorem isBlank_head_trim {cs rest : List Char} {c : Char} (start : trim cs = c :: rest) : isBlank c = false := by
  have front : c :: rest <+: trimLeft cs := by
    rw [← start]
    exact List.rdropWhile_prefix isBlank _
  have first := List.head?_dropWhile_not isBlank cs
  obtain ⟨more, split⟩ := front
  rw [← trimLeft, ← split] at first
  exact first

end Text

namespace Calendar
open RowStream.Text RowStream.Number RowStream.Number.Decimal

variable {width n : Nat}

theorem allDigits_padded (width n : Nat) : allDigits (padded width n) = true :=
  allDigits_append.mpr ⟨allDigits_zeros _, allDigits_toDigits n⟩

theorem value_padded (width n : Nat) : ofDigits (padded width n) = n := by
  rw [padded, ofDigits_append, ofDigits_zeros, ofDigits_toDigits, Nat.mul_zero, Nat.zero_add]

theorem length_padded (positive : 0 < width) (fits : n < 10 ^ width) : (padded width n).length = width := by
  have short := (Nat.length_toDigits_le_iff (by decide) positive).mpr fits
  rw [padded, List.length_append, List.length_replicate]
  omega

theorem exists_head_padded (positive : 0 < width) (fits : n < 10 ^ width) :
    ∃ d ds, padded width n = d :: ds ∧ isDigit d = true := by
  have length := length_padded positive fits
  cases start : padded width n with
  | nil =>
    rw [start, List.length_nil] at length
    omega
  | cons d ds => exact ⟨d, ds, rfl, allDigits_iff.mp (allDigits_padded width n) d (start ▸ List.mem_cons_self)⟩

theorem digits?_padded (positive : 0 < width) (fits : n < 10 ^ width) (small : width ≤ 18) (rest : List Char) :
    digits? 1 width (padded width n ++ rest) = some (n, rest) := by
  have length := length_padded positive fits
  have run : ((padded width n ++ rest).take width).takeWhile isDigit = padded width n := by
    rw [List.take_left' length, List.takeWhile_eq_self_iff.mpr (allDigits_iff.mp (allDigits_padded width n))]
  have word : ¬Range.int64.high < (n : Int) := by
    have wide : 10 ^ width ≤ 10 ^ 18 := Nat.pow_le_pow_right (by decide) small
    simp only [Range.int64]
    omega
  simp only [digits?, run, length, value_padded]
  rw [if_neg (by omega), List.drop_left' length]

theorem trimLeft_padded (positive : 0 < width) (fits : n < 10 ^ width) (rest : List Char) :
    trimLeft (padded width n ++ rest) = padded width n ++ rest := by
  obtain ⟨d, ds, start, digit⟩ := exists_head_padded positive fits
  rw [start, List.cons_append, trimLeft_of_head (isBlank_of_isDigit digit)]

theorem year?_padded (fits : n < 10 ^ 4) (rest : List Char) : year? (padded 4 n ++ rest) = some ((n : Int), rest) := by
  obtain ⟨d, ds, start, digit⟩ := exists_head_padded (by decide) fits
  have read := digits?_padded (by decide) fits (by decide) rest
  rw [start, List.cons_append] at read ⊢
  rw [year?, read]
  · rfl
  · rintro _ ⟨rfl, rfl⟩
    cases digit
  · rintro _ ⟨rfl, rfl⟩
    cases digit

end Calendar
end RowStream

import Mathlib.Algebra.Field.Rat
import Mathlib.Tactic.FieldSimp
import Mathlib.Tactic.NormNum
import RowStream.Proofs.WordColumns

/-! # Exact numbers in converted columns

A decimal column holds unscaled integers of 128 bits. A number is stored if its fraction digits, zeros
included, are no more than those of the column and the integer fits; the declared precision is not looked at. -/
namespace RowStream.Columnar
open RowStream.Decode RowStream.Number

/-- The unscaled integer that a decimal column keeps for a value. -/
inductive KeptAt (scale : Nat) : Value → Option Int → Prop
  | null : KeptAt scale .null none
  | number {v unscaled own} {n : Int} (exact : Exact v unscaled own) (places : own ≤ scale)
      (shifted : (n : ℚ) = unscaled / 10 ^ own * 10 ^ scale) (inWord : n ∈ int128) : KeptAt scale v (some n)

variable {precision scale : Nat} {v : Value} {unscaled n : Int} {own : Nat}

/-- Whatever has no more digits than the widest precision fits. -/
theorem mem_int128_of_digits (digits : n.natAbs < 10 ^ precision) (widest : precision ≤ maxPrecision) : n ∈ int128 := by
  have wide : 10 ^ precision ≤ 10 ^ 38 := Nat.pow_le_pow_right (by decide) widest
  simp only [Range.mem_def, int128]
  omega

theorem shifted_iff (places : own ≤ scale) :
    (n : ℚ) = unscaled / 10 ^ own * 10 ^ scale ↔ unscaled * (10 ^ (scale - own) : Nat) = n := by
  have split : (10 : ℚ) ^ scale = 10 ^ (scale - own) * 10 ^ own := by rw [← pow_add, Nat.sub_add_cancel places]
  have unit : (10 : ℚ) ^ own ≠ 0 := pow_ne_zero _ (by norm_num)
  rw [split, div_mul_eq_mul_div, ← mul_assoc, mul_div_cancel_right₀ _ unit, eq_comm]
  norm_cast

theorem narrowDecimal?_eq_some (exact : Exact v unscaled own) :
    narrowDecimal? scale v = some n ↔ own ≤ scale ∧ (n : ℚ) = unscaled / 10 ^ own * 10 ^ scale ∧ n ∈ int128 := by
  have exponent : ((scale : Int) - own).toNat = scale - own := Int.toNat_sub scale own
  rw [narrowDecimal?_eq exact, Option.ite_none_right_eq_some, Range.within?_eq_some, Int.ofNat_le, exponent]
  refine and_congr_right fun places => ?_
  rw [shifted_iff places]
  constructor
  · rintro ⟨inWord, rfl⟩
    exact ⟨rfl, inWord⟩
  · rintro ⟨rfl, inWord⟩
    exact ⟨inWord, rfl⟩

theorem stored_decimal {k : Option Int} : Stored (.decimal128 precision scale) v k ↔ KeptAt scale v k := by
  constructor
  · rintro (_ | ⟨_, narrowed⟩)
    · exact .null
    · obtain ⟨_, _, exact⟩ := exists_exact narrowed
      obtain ⟨places, shifted, inWord⟩ := (narrowDecimal?_eq_some exact).mp narrowed
      exact .number exact places shifted inWord
  · rintro (_ | ⟨exact, places, shifted, inWord⟩)
    · exact .null
    · have filled : v.isNull = false := by cases exact <;> rfl
      exact .number filled ((narrowDecimal?_eq_some exact).mpr ⟨places, shifted, inWord⟩)

variable {options : BatchOptions} {o : DecodeOptions} {t : ColumnType}

theorem targetType_decimal (fixed : t.kind = .fixed) (higher : options.higherPrecision = true) :
    targetType options t = .word (decimalTarget t) := by
  rw [targetType_eq]
  simp [ColumnType.isStructured, scalarTarget, fixedTarget, decimalTarget, fixed, higher]

/-- Columns of exact numbers are converted number by number, in a batch as at any depth. The batch is refused if
a number has more fraction digits than its column or its unscaled integer leaves 128 bits; every number of
the declared precision, with no more fraction digits, is kept. -/
theorem decimal_columns_convert {schema : Schema} {b : Batch} (counted : b.columns.length = schema.length) {j : Nat}
    {source : Field Column} (declared : schema[j]? = some t) (given : b.columns[j]? = some source)
    (fixed : t.kind = .fixed) (higher : options.higherPrecision = true)
    (target : decimalTarget t = .decimal128 precision scale) (scale_le : scale ≤ precision) {vs : List Value}
    (length : vs.length = b.rows)
    (decoded : ∀ (row : Nat) v, vs[row]? = some v →
      value (exactly o) t (⟨source.content, row⟩ : ColumnCursor) = .ok v) :
    ConvertsTo options o schema b j t source.content (.decimal128 precision scale) (List.Forall₂ (KeptAt scale) vs) ∧
    (∀ us c, build (.word (.decimal128 precision scale)) us = .ok c ↔
      ∃ ns, List.Forall₂ (KeptAt scale) us ns ∧ c = .word (.decimal128 precision scale) (ns.map Slot.ofOption)) ∧
    ∀ v unscaled own (n : Int), Exact v unscaled own → own ≤ scale → (n : ℚ) = unscaled / 10 ^ own * 10 ^ scale →
      n.natAbs < 10 ^ precision → KeptAt scale v (some n) := by
  have checked : checkWord (.decimal128 precision scale) = .ok () := if_neg (by omega)
  refine ⟨?_, ?_, ?_⟩
  · have word : targetType options t = .word (.decimal128 precision scale) := by
      rw [targetType_decimal fixed higher, target]
    refine convertsTo_of_cells counted declared given word checked length ?_
    intro row v here n
    rw [decoded row v here]
    simp only [Except.ok.injEq, exists_eq_left', stored_decimal]
  · intro us c
    refine (build_word_eq_ok checked).trans (exists_congr fun ns => and_congr_left' ?_)
    exact forall₂_iff_of_iff fun _ _ => stored_decimal
  · intro v unscaled own n exact places shifted digits
    have widest : precision ≤ maxPrecision := by
      simp only [decimalTarget, WordType.decimal128.injEq] at target
      omega
    exact .number exact places shifted (mem_int128_of_digits digits widest)

def priceType : ColumnType := { name := "P", kind := .fixed, precision := some 10, scale := 2 }

/-- One fraction digit where the column has two: 1.5 and a null. -/
def prices : Field Column := ⟨"p", true, .word (.decimal128 10 1) [⟨true, 15⟩, ⟨false, 0⟩]⟩

theorem decimal_columns_convert_prices :
    decimalTarget priceType = .decimal128 10 2 ∧
    convertColumn { higherPrecision := true } {} 2 priceType prices.content =
      .ok ⟨"P", true, .word (.decimal128 10 2) [⟨true, 150⟩, ⟨false, 0⟩]⟩ := by
  have target : decimalTarget priceType = .decimal128 10 2 := by decide
  have decoded : ∀ (row : Nat) v, [Value.decimal 15 1, .null][row]? = some v →
      value (exactly {}) priceType (⟨prices.content, row⟩ : ColumnCursor) = .ok v := by
    intro row v here
    match row with
    | 0 =>
      cases here
      rfl
    | 1 =>
      cases here
      rfl
    | row + 2 => cases here
  obtain ⟨converts, -⟩ := @decimal_columns_convert 10 2 { higherPrecision := true } {} priceType [priceType]
    ⟨2, [prices]⟩ rfl 0 prices rfl rfl rfl rfl target (by decide) [.decimal 15 1, .null] rfl decoded
  have kept : KeptAt 2 (.decimal 15 1) (some 150) :=
    .number (.decimal 15 1) (by decide) (by norm_num) (by decide)
  exact ⟨target, (converts.column _).mpr ⟨[some 150, none], .cons kept (.cons .null .nil), rfl⟩⟩

/-- Three digits are stored where two are declared, and 1.500 is refused where one fraction digit is declared. -/
theorem three_digits_in_two :
    convert { higherPrecision := true } {} [{ name := "N", kind := .fixed, precision := some 2 }]
        ⟨1, [⟨"N", true, .word .int64 [⟨true, 123⟩]⟩]⟩ =
      .ok ⟨1, [⟨"N", true, .word (.decimal128 2 0) [⟨true, 123⟩]⟩]⟩ ∧
    convert { higherPrecision := true } {} [{ name := "N", kind := .fixed, precision := some 10, scale := 1 }]
        ⟨1, [⟨"N", true, .word (.decimal128 10 3) [⟨true, 1500⟩]⟩]⟩ =
      .error (.decode "column N: cannot store decimal value as Decimal128(10, 1)") := by
  refine ⟨rfl, rfl⟩

end RowStream.Columnar

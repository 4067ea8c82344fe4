import RowStream.Proofs.Logical

/-! # Texts of scalars

The text forms of every scalar type, and what each of them is decoded to. Session formats never matter:
counts of days and seconds are recognized before any layout is tried. -/
namespace RowStream
open RowStream.Text RowStream.Number RowStream.Number.Decimal RowStream.Calendar RowStream.Decode

inductive ScalarText (t : ColumnType) : Logical → String → Prop
  | fixed (kind : t.kind = .fixed) (unscaled : Int) : ScalarText t (.fixed unscaled) (render unscaled t.scale)
  | real (kind : t.kind = .real) {x s} (read : Binary64.read? (trimmed s) = some x) : ScalarText t (.real x) s
  | word (kind : t.kind = .boolean) (b : Bool) : ScalarText t (.bool b) (if b then "true" else "false")
  | digit (kind : t.kind = .boolean) (b : Bool) : ScalarText t (.bool b) (if b then "1" else "0")
  | date (kind : t.kind = .date) (days : Int) : ScalarText t (.date days) (toString days)
  | scaled (kind : t.kind ∈ ColumnType.clockKinds) (n : Int) :
      ScalarText t (.scaled n) (render n t.scale)
  | zoned (kind : t.kind = .timestampTz) (n : Int) (offset : Nat) :
      ScalarText t (.zoned n offset) (render n t.scale ++ " " ++ toString offset)
  | lowerHex (kind : t.kind = .binary) (bytes : List UInt8) : ScalarText t (.binary bytes) (Hex.encode bytes)
  | upperHex (kind : t.kind = .binary) (bytes : List UInt8) : ScalarText t (.binary bytes) (Hex.encodeUpper bytes)
  | text (kind : t.kind ∈ [.text, .variant, .object, .array]) (plain : t.isStructured = false) (s : String) :
      ScalarText t (.text s) s

namespace Decode
variable {α : Type}

theorem trimmed_ofList (cs : List Char) : trimmed (String.ofList cs) = trim cs := by
  rw [trimmed, String.toList_ofList]

theorem trimmed_render (n : Int) (scale : Nat) : trimmed (render n scale) = renderChars n scale := by
  rw [render, trimmed_ofList, trim_renderChars]

/-- Seconds beyond 64 bits, where nothing can be. -/
def Far (seconds : Int) : Prop := seconds < -9223372036854775807 ∨ 9223372036854775807 < seconds

theorem far_secondsOf {n : Int} {scale : Nat} (h : ¬((n.natAbs / 10 ^ scale : Nat) : Int) ∈ Range.int64) :
    Far (secondsOf n scale) := by
  have unit_pos : 0 < 10 ^ scale := Nat.pow_pos (by decide)
  rw [Range.mem_def] at h
  simp only [Range.int64] at h
  by_cases negative : n < 0
  · obtain ⟨exact_parts, borrowed_parts⟩ := negative_parts negative unit_pos
    rw [Far, secondsOf]
    by_cases none : n.natAbs % 10 ^ scale = 0
    · rw [(exact_parts none).1]
      omega
    · rw [(borrowed_parts none).1]
      omega
  · have positive : n = n.natAbs := by omega
    rw [Far, secondsOf, positive, ← Int.natCast_div]
    omega

theorem time?_far {n : Int} {scale : Nat} (far : Far (secondsOf n scale)) : Logical.time? n scale = none := by
  rw [Logical.time?]
  split
  · rw [Time.ofParts?, dif_neg]
    rw [Far] at far
    simp only [secondsPerDay]
    omega
  · rfl

theorem instant?_far {n : Int} {scale : Nat} (far : Far (secondsOf n scale)) : Logical.instant? n scale = none := by
  have outside : ∀ nanos, Instant.ofSecond? (secondsOf n scale) nanos = none := by
    intro nanos
    rw [Instant.ofSecond?, dif_neg]
    rw [Far] at far
    simp only [minSecond, maxSecond, minDay, maxDay, secondsPerDay]
    omega
  rw [Logical.instant?, Instant.ofParts?, outside]
  split <;> rfl

@[simp] theorem toOption_orRefused (kind : TypeKind) (s : String) (found : Option α) :
    (orRefused kind s found).toOption = found := by
  cases found <;> rfl

theorem isEpochForm_renderChars (n : Int) (scale : Nat) : isEpochForm (renderChars n scale) = true := by
  obtain ⟨whole, fraction, placed⟩ := exists_placed n.natAbs scale
  obtain ⟨d, rest, digit, split⟩ := placed.head
  have all : ∀ c ∈ placePoint n.natAbs scale, (isDigit c || c == '.') = true := by
    intro c member
    rcases mem_placePoint member with digit | rfl
    · rw [digit, Bool.true_or]
    · rfl
  have body : (dropStart? ['-'] (renderChars n scale)).getD (renderChars n scale) = placePoint n.natAbs scale := by
    rw [renderChars]
    split
    · rfl
    · have minus : '-' ≠ d := (ne_of_isDigit digit rfl).symm
      rw [split, dropStart?, if_neg minus]
      rfl
  rw [isEpochForm, body, List.all_eq_true.mpr all, split]
  rfl

/-- Seconds that were written with a fraction, whatever is made of them. -/
theorem toOption_epoch {kind : TypeKind} {s : String} {n : Int} {scale : Nat} (fits : scale ≤ 9)
    {make : Int × Nat → Result α} {value : Option α}
    (near : (make (secondsOf n scale, nanosOf n scale)).toOption = value)
    (far : Far (secondsOf n scale) → value = none) :
    ((orRefused kind s (epoch? (renderChars n scale))).bind make).toOption = value := by
  rw [toOption_bind, toOption_orRefused, epoch?_renderChars n fits]
  split
  · exact near
  · rename_i beyond
    rw [far (far_secondsOf beyond)]
    rfl

theorem toOption_parseTime (n : Int) {scale : Nat} (fits : scale ≤ 9) (pattern : Option (List Char)) :
    (parseTime (render n scale) pattern).toOption = Logical.time? n scale := by
  simp only [parseTime, trimmed_render, isEpochForm_renderChars, if_true]
  exact toOption_epoch fits (toOption_timeOfParts n scale) time?_far

theorem toOption_parseNtz (n : Int) {scale : Nat} (fits : scale ≤ 9) (pattern : Option (List Char)) :
    (parseNtz (render n scale) pattern).toOption = Logical.instant? n scale := by
  simp only [parseNtz, trimmed_render, isEpochForm_renderChars, if_true]
  exact toOption_epoch fits (toOption_instantOfParts n scale) instant?_far

theorem toOption_parseLtz (n : Int) {scale : Nat} (fits : scale ≤ 9) (pattern : Option (List Char)) :
    (parseLtz (render n scale) pattern).toOption = Logical.instant? n scale := by
  simp only [parseLtz, trimmed_render, isEpochForm_renderChars, if_true]
  exact toOption_epoch fits (toOption_instantOfParts n scale) instant?_far

theorem toList_toString_int (n : Int) : (toString n).toList = renderChars n 0 := by
  have whole : ∀ m, placePoint m 0 = Nat.toDigits 10 m := fun _ => rfl
  cases n with
  | ofNat m =>
    rw [renderChars, if_neg (by simp), whole]
    show (Nat.repr m).toList = _
    rw [Nat.toList_repr]
    rfl
  | negSucc m =>
    rw [renderChars, if_pos (by simp), whole]
    show ("-" ++ Nat.repr (m + 1)).toList = _
    rw [String.toList_append, Nat.toList_repr]
    rfl

theorem toList_toString_nat (n : Nat) : (toString n).toList = Nat.toDigits 10 n := by
  rw [Nat.toString_eq_repr, Nat.toList_repr]

theorem toOption_parseDate (days : Int) (pattern : Option (List Char)) :
    (parseDate (toString days) pattern).toOption = Date.ofDay? days := by
  have trimmed_days : trimmed (toString days) = renderChars days 0 := by
    rw [trimmed, toList_toString_int, trim_renderChars]
  have noPoint : (renderChars days 0).contains '.' = false := by
    rw [List.contains_eq_mem, decide_eq_false_iff_not, renderChars]
    have magnitude : '.' ∉ placePoint days.natAbs 0 := not_mem_of_allDigits (allDigits_toDigits _) rfl
    split
    · simpa using magnitude
    · exact magnitude
  have form : (isEpochForm (renderChars days 0) && !(renderChars days 0).contains '.') = true := by
    rw [isEpochForm_renderChars, noPoint]
    rfl
  simp only [parseDate, trimmed_days, form, if_true, Range.read?_renderChars (show Range.int64.low < 0 by decide),
    Range.within?]
  by_cases fits : days ∈ Range.int64
  · rw [if_pos fits]
    simp only [dateOfDays]
    cases Date.ofDay? days <;> rfl
  · rw [if_neg fits, Date.ofDay?, dif_neg]
    · rfl
    · rw [Range.mem_def] at fits
      simp only [Range.int64] at fits
      simp only [minDay, maxDay]
      omega

theorem zoned?_far {n : Int} {scale offset : Nat} (far : Far (secondsOf n scale)) :
    Logical.zoned? n scale offset = none := by
  rw [Logical.zoned?, instant?_far far]
  rfl

theorem zoned?_offset {n : Int} {scale offset : Nat} (far : ¬(offset : Int) ∈ Range.int64) :
    Logical.zoned? n scale offset = none := by
  have outside : ¬(((offset : Int) - offsetBias) * 60).natAbs < secondsPerDay := by
    rw [Range.mem_def] at far
    simp only [Range.int64] at far
    simp only [offsetBias, secondsPerDay]
    omega
  rw [Logical.zoned?]
  cases Logical.instant? n scale with
  | none => rfl
  | some instant => exact dif_neg outside

theorem toOption_parseTz (n : Int) {scale : Nat} (fits : scale ≤ 9) (offset : Nat) (pattern : Option (List Char)) :
    (parseTz (render n scale ++ " " ++ toString offset) pattern).toOption = Logical.zoned? n scale offset := by
  have chars : (render n scale ++ " " ++ toString offset).toList =
      renderChars n scale ++ ' ' :: Nat.toDigits 10 offset := by
    rw [String.toList_append, String.toList_append, toList_toString_nat, render, String.toList_ofList]
    simp
  have first_ne : renderChars n scale ≠ [] := by
    intro empty
    have := isEpochForm_renderChars n scale
    rw [empty] at this
    cases this
  have trimmed_eq : trimmed (render n scale ++ " " ++ toString offset) =
      renderChars n scale ++ ' ' :: Nat.toDigits 10 offset := by
    rw [trimmed, chars]
    apply trim_eq_self
    · intro c first
      rw [List.head?_append_of_ne_nil _ first_ne] at first
      exact isBlank_renderChars (List.mem_of_mem_head? first)
    · intro c last
      rw [List.getLast?_append_of_ne_nil _ (List.cons_ne_nil _ _),
        List.getLast?_cons_of_ne_nil Nat.toDigits_ne_nil] at last
      exact isBlank_of_isDigit (isDigit_of_mem_toDigits (List.mem_of_mem_getLast? last))
  have noBlank : ' ' ∉ renderChars n scale := by
    intro member
    have := isBlank_renderChars member
    cases this
  have parts : storedZoned? (renderChars n scale ++ ' ' :: Nat.toDigits 10 offset) =
      some (renderChars n scale, Nat.toDigits 10 offset) := by
    rw [storedZoned?, cutAt_append noBlank, Option.filter_some, isEpochForm_renderChars, allDigits_toDigits]
    rfl
  have read_offset : Range.int64.read? (Nat.toDigits 10 offset) = Range.int64.within? offset := by
    rw [Range.read?_digits _ Nat.toDigits_ne_nil (allDigits_toDigits _), ofDigits_toDigits]
  simp only [parseTz, trimmed_eq, parts, read_offset]
  refine toOption_epoch fits ?_ zoned?_far
  rw [Range.within?]
  by_cases known : (offset : Int) ∈ Range.int64
  · rw [if_pos known]
    exact toOption_zonedOfParts n scale offset
  · rw [if_neg known, zoned?_offset known]
    rfl

theorem isBlank_encodeWith {digits : List Char} (h : ∀ n < 16, isBlank (digits.getD n '0') = false)
    {bytes : List UInt8} {c : Char} (member : c ∈ Hex.encodeWith digits bytes) : isBlank c = false := by
  induction bytes with
  | nil => cases member
  | cons b bs ih =>
    have byte := b.toNat_lt
    rw [Hex.encodeWith, List.mem_cons, List.mem_cons] at member
    rcases member with rfl | rfl | later
    · exact h _ (by omega)
    · exact h _ (by omega)
    · exact ih later

theorem trimmed_encodeWith {digits : List Char} (h : ∀ n < 16, isBlank (digits.getD n '0') = false)
    (bytes : List UInt8) : trimmed (String.ofList (Hex.encodeWith digits bytes)) = Hex.encodeWith digits bytes := by
  rw [trimmed_ofList]
  exact trim_eq_self_of_forall fun _ member => isBlank_encodeWith h member

end Decode

namespace ScalarText
variable {t : ColumnType} {l : Logical} {s : String}

theorem isStructured (h : ScalarText t l s) : t.isStructured = false := by
  cases h with
  | text kind plain => exact plain
  | scaled kind => exact ColumnType.isStructured_of_clock kind
  | _ => simp_all [ColumnType.isStructured]

/-- Every form is decoded to the value that the cell stands for. -/
theorem toOption_text (h : ScalarText t l s) (regular : t.Regular) (o : DecodeOptions) :
    (Decode.text t s o).toOption = l.value? o t := by
  cases h with
  | fixed kind unscaled =>
    have fits : (t.scale : Int) ∈ Range.int64 := by
      have scale := regular.scale
      rw [Range.mem_def] at scale ⊢
      simp only [Range.nat32, Range.int64] at scale ⊢
      omega
    have read : parseFixed (render unscaled t.scale) t.scale = .ok unscaled := by
      rw [parseFixed, render, String.toList_ofList, unscaled?_renderChars unscaled fits]
      rfl
    rw [Logical.value?, Decode.text]
    simp only [kind, read]
    rfl
  | real kind read =>
    rw [Logical.value?, Decode.text]
    simp only [kind, read]
    rfl
  | word kind b =>
    rw [Logical.value?, Decode.text]
    simp only [kind]
    cases b <;> rfl
  | digit kind b =>
    rw [Logical.value?, Decode.text]
    simp only [kind]
    cases b <;> rfl
  | date kind days =>
    rw [Logical.value?, Decode.text]
    simp only [kind, toOption_map, toOption_parseDate]
  | scaled kind n =>
    rw [Logical.value?, Decode.text, Logical.clock?]
    have fits := regular.scale_le kind
    simp only [ColumnType.clockKinds, List.mem_cons, List.not_mem_nil, or_false] at kind
    rcases kind with kind | kind | kind
    · simp only [kind, toOption_map, toOption_parseTime n fits]
    · simp only [kind, toOption_map, toOption_parseNtz n fits]
    · simp only [kind, toOption_map, toOption_parseLtz n fits]
  | zoned kind n offset =>
    have fits : t.scale ≤ 9 := regular.seconds (by simp [kind])
    rw [Logical.value?, Decode.text]
    simp only [kind, toOption_map, toOption_parseTz n fits]
  | lowerHex kind bytes =>
    have read : Hex.decode (trimmed (Hex.encode bytes)) = some bytes := by
      rw [Hex.encode, trimmed_encodeWith (by decide), Hex.decode_encodeWith Hex.digitValue?_lower]
    rw [Logical.value?, Decode.text]
    simp only [kind, read]
    rfl
  | upperHex kind bytes =>
    have read : Hex.decode (trimmed (Hex.encodeUpper bytes)) = some bytes := by
      rw [Hex.encodeUpper, trimmed_encodeWith (by decide), Hex.decode_encodeWith Hex.digitValue?_upper]
    rw [Logical.value?, Decode.text]
    simp only [kind, read]
    rfl
  | text kind plain =>
    rw [Logical.value?, Decode.text]
    simp only [List.mem_cons, List.not_mem_nil, or_false] at kind
    rcases kind with kind | kind | kind | kind <;> simp only [kind] <;> rfl

end ScalarText
end RowStream

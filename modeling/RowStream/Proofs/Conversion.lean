import RowStream.Columnar.Convert
import RowStream.Proofs.NarrowedCells

/-! # Converted batches say what their rows say

Conversion decodes every cell exactly and builds columns from the values. Cell by cell the converted batch
shows the narrowed value, and it fails only where a value has no place in its type. -/
namespace RowStream

namespace Decode
open RowStream.Columnar
variable {κ : Type} [Cursor κ] {o : DecodeOptions} {options : BatchOptions}

theorem shaped_fieldValues {c : κ} {index : Nat} {ts : List ColumnType} {parts : List (String × Value)}
    (shaped : ∀ u ∈ ts, ∀ (child : κ) v, value o u child = .ok v → Shaped (targetType options u) v)
    (h : fieldValues o c index ts = .ok parts) :
    ShapedFields (ts.map fun u => ⟨u.name, true, targetType options u⟩) parts := by
  induction ts generalizing index parts with
  | nil =>
    rw [fieldValues] at h
    cases h
    trivial
  | cons t ts ih =>
    rw [fieldValues] at h
    obtain ⟨child, _, h⟩ := bind_eq_ok.mp h
    obtain ⟨v, here, h⟩ := bind_eq_ok.mp h
    obtain ⟨rest, later, h⟩ := bind_eq_ok.mp h
    cases h
    refine ⟨rfl, shapedField_iff.mpr (shaped t List.mem_cons_self child v here), ?_⟩
    exact ih (fun u member => shaped u (List.mem_cons_of_mem t member)) later

theorem shaped_scalarTarget (t : ColumnType) (v : Value) : Shaped (scalarTarget options t) v := by
  unfold scalarTarget fixedTarget
  cases t.kind with
  | fixed =>
    simp only
    split
    · trivial
    · split <;> trivial
  | _ => trivial

/-- Decoded objects have the fields of their type, at every depth. -/
theorem shaped_value (t : ColumnType) (c : κ) (v : Value) (h : value o t c = .ok v) :
    Shaped (targetType options t) v := by
  induction t using ColumnType.parts_induction generalizing c v with
  | step t fields parts =>
    rw [value_eq] at h
    rw [targetType_eq]
    split at h
    · cases h
      exact shaped_null _
    · by_cases structured : t.isStructured = true
      · have part := parts structured
        simp only [structured, Bool.not_true, Bool.false_eq_true, if_false] at h ⊢
        cases kind : t.kind with
        | array =>
          simp only [kind] at h ⊢
          obtain ⟨elements, _, h⟩ := bind_eq_ok.mp h
          obtain ⟨items, decoded, h⟩ := bind_eq_ok.mp h
          cases h
          intro v member
          obtain ⟨i, here⟩ := List.mem_iff_getElem?.mp member
          obtain ⟨element, _, decodes⟩ := get_of_forall₂ (mapM_eq_ok.mp decoded).flip here
          exact shapedField_iff.mpr (part 0 element v decodes)
        | map =>
          simp only [kind] at h ⊢
          obtain ⟨places, _, h⟩ := bind_eq_ok.mp h
          obtain ⟨entries, decoded, h⟩ := bind_eq_ok.mp h
          cases h
          intro e member
          obtain ⟨i, here⟩ := List.mem_iff_getElem?.mp member
          obtain ⟨place, _, decodes⟩ := get_of_forall₂ (mapM_eq_ok.mp decoded).flip here
          obtain ⟨k, key, decodes⟩ := bind_eq_ok.mp decodes
          obtain ⟨w, value, decodes⟩ := bind_eq_ok.mp decodes
          cases decodes
          exact ⟨shapedField_iff.mpr (part 0 place.1 k key), shapedField_iff.mpr (part 1 place.2 w value)⟩
        | _ =>
          simp only [kind] at h ⊢
          obtain ⟨objects, decoded, rfl⟩ := map_eq_ok.mp h
          exact shaped_fieldValues (fun u member child v => fields u member child v) decoded
      · simp only [structured, Bool.not_false, if_true]
        exact shaped_scalarTarget t v

end Decode

namespace Columnar
open RowStream.Decode
variable {options : BatchOptions} {o : DecodeOptions} {schema : Schema} {b r : Batch}

theorem convertColumn_eq_ok {rows : Nat} {t : ColumnType} {c : Column} {column : Field Column} :
    convertColumn options o rows t c = .ok column ↔
      ∃ vs, List.Forall₂ (fun row v => value (exactly o) t (⟨c, row⟩ : ColumnCursor) = .ok v) (List.range rows) vs ∧
        buildField ⟨t.name, t.nullable, targetType options t⟩ vs = .ok column := by
  rw [convertColumn]
  constructor
  · intro h
    obtain ⟨vs, decoded, built⟩ := bind_eq_ok.mp h
    exact ⟨vs, mapM_eq_ok.mp decoded, built⟩
  · rintro ⟨vs, decoded, built⟩
    exact bind_eq_ok.mpr ⟨vs, mapM_eq_ok.mpr decoded, built⟩

/-- One converted column: its field, its length, and its cells. -/
theorem cells_convertColumn {rows : Nat} {t : ColumnType} {c : Column} {column : Field Column}
    (h : convertColumn options o rows t c = .ok column) :
    Column.fieldType column = ⟨t.name, t.nullable, targetType options t⟩ ∧ column.content.length = rows ∧
    Formed column.content ∧
    ∀ row < rows, ∃ v, value (exactly o) t (⟨c, row⟩ : ColumnCursor) = .ok v ∧
      column.content.isNull row = v.isNull ∧ narrow? (targetType options t) v = some (column.content.cell row) := by
  obtain ⟨vs, decoded, built⟩ := convertColumn_eq_ok.mp h
  obtain ⟨d, content, rfl⟩ := buildField_eq_ok.mp built
  have target : Target (fun _ => True) (targetType options t) :=
    target_targetType (fun _ _ => trivial) (.of_forall (fun _ _ _ => trivial) t)
  have holds : Holds (targetType options t) vs d := by
    refine holds_build target vs d ?_ content
    intro v member
    obtain ⟨i, here⟩ := List.mem_iff_getElem?.mp member
    obtain ⟨row, _, decodes⟩ := get_of_forall₂ decoded.flip here
    exact shaped_value t _ v decodes
  refine ⟨holds.fieldType, ?_, holds.formed, ?_⟩
  · rw [holds.length_eq, ← decoded.length_eq, List.length_range]
  · intro row inside
    obtain ⟨v, here, decodes⟩ := get_of_forall₂ decoded (List.getElem?_range inside)
    exact ⟨v, decodes, holds.nulls row v here, holds.cells row v here⟩

theorem convertColumn_isOk {rows : Nat} {t : ColumnType} {c : Column}
    (scales : t.Everywhere fun u => u.kind = .fixed → options.higherPrecision = true →
      ∀ precision, u.precision = some precision → u.scale ≤ precision)
    (narrows : ∀ row < rows, ∃ v cell, value (exactly o) t (⟨c, row⟩ : ColumnCursor) = .ok v ∧
      narrow? (targetType options t) v = some cell) : ∃ column, convertColumn options o rows t c = .ok column := by
  have target : Target (fun w => checkWord w = .ok ()) (targetType options t) := by
    refine target_targetType ?_ (scales.mono ?_)
    · intro w notDecimal
      cases w with
      | decimal128 precision scale => exact (notDecimal precision scale rfl).elim
      | _ => rfl
    · intro u fits fixed exact
      have scale_le : ∀ precision, u.precision = some precision → u.scale ≤ precision := fits fixed exact
      rw [decimalTarget, checkWord, if_neg]
      simp only [maxPrecision]
      cases declared : u.precision with
      | none => simp only [Option.getD_none]; omega
      | some precision =>
        have := scale_le precision declared
        simp only [Option.getD_some]
        omega
  obtain ⟨vs, decoded⟩ :
      ∃ vs, (List.range rows).mapM (fun row => value (exactly o) t (⟨c, row⟩ : ColumnCursor)) = .ok vs := by
    refine mapM_isOk ?_
    intro row member
    obtain ⟨v, _, decodes, _⟩ := narrows row (List.mem_range.mp member)
    exact ⟨v, decodes⟩
  have decoded := mapM_eq_ok.mp decoded
  obtain ⟨column, built⟩ : ∃ column, buildField ⟨t.name, t.nullable, targetType options t⟩ vs = .ok column := by
    refine buildField_isOk (build_isOk target vs ?_)
    intro v member
    obtain ⟨i, here⟩ := List.mem_iff_getElem?.mp member
    obtain ⟨row, known, decodes⟩ := get_of_forall₂ decoded.flip here
    obtain ⟨w, cell, same, narrowed⟩ := narrows row (List.mem_range.mp (List.mem_of_getElem? known))
    obtain rfl : w = v := Except.ok.inj (same.symm.trans decodes)
    exact ⟨cell, narrowed⟩
  exact ⟨column, convertColumn_eq_ok.mpr ⟨vs, decoded, built⟩⟩

theorem convert_eq_ok (counted : b.columns.length = schema.length) :
    convert options o schema b = .ok r ↔
      r.rows = b.rows ∧
      List.Forall₂ (fun p column => convertColumn options o b.rows p.2 p.1.content = .ok column)
        (b.columns.zip schema) r.columns ∧
      ∀ column ∈ r.columns, column.nullable = false → column.content.hasNull = false := by
  have present : ∀ columns : List (Field Column),
      (columns.any fun f => !f.nullable && f.content.hasNull) = false ↔
        ∀ column ∈ columns, column.nullable = false → column.content.hasNull = false := by
    intro columns
    rw [List.any_eq_false]
    refine forall_congr' fun column => imp_congr_right fun _ => ?_
    cases column.nullable <;> simp
  have traversed : ∀ columns, ((b.columns.zip schema).mapM fun p =>
      Result.mapError (inColumn p.2.name) (convertColumn options o b.rows p.2 p.1.content)) = .ok columns ↔
      List.Forall₂ (fun p column => convertColumn options o b.rows p.2 p.1.content = .ok column)
        (b.columns.zip schema) columns := by
    intro columns
    rw [mapM_eq_ok]
    simp only [mapError_eq_ok]
  rw [convert, if_pos counted]
  constructor
  · intro h
    obtain ⟨columns, converted, h⟩ := bind_eq_ok.mp h
    split at h
    · cases h
    · rename_i fits
      cases h
      exact ⟨rfl, (traversed columns).mp converted, (present columns).mp (by simpa using fits)⟩
  · rintro ⟨rows, converted, fits⟩
    refine bind_eq_ok.mpr ⟨r.columns, (traversed _).mpr converted, ?_⟩
    rw [(present _).mpr fits, if_neg (by simp), ← rows]

section
variable (counted : b.columns.length = schema.length)
include counted

section
variable (h : convert options o schema b = .ok r)
include h

/-- Every converted column comes from the column and the type at its place. -/
theorem source_of_convert {j : Nat} {column : Field Column} (here : r.columns[j]? = some column) :
    ∃ t source, schema[j]? = some t ∧ b.columns[j]? = some source ∧
      convertColumn options o b.rows t source.content = .ok column := by
  obtain ⟨_, converted, _⟩ := (convert_eq_ok counted).mp h
  obtain ⟨⟨source, t⟩, paired, conversion⟩ := get_of_forall₂ converted.flip here
  obtain ⟨given, declared⟩ := List.getElem?_zip_eq_some.mp paired
  exact ⟨t, source, declared, given, conversion⟩

theorem fieldTypes_convert : Column.fieldTypes r.columns = targetSchema options schema := by
  obtain ⟨_, converted, _⟩ := (convert_eq_ok counted).mp h
  have length_eq : r.columns.length = schema.length := by
    rw [← converted.length_eq, List.length_zip, counted, Nat.min_self]
  rw [fieldTypes_eq, targetSchema]
  refine List.ext_getElem? fun j => ?_
  rw [List.getElem?_map, List.getElem?_map]
  cases here : r.columns[j]? with
  | none =>
    have beyond : schema[j]? = none := by
      rw [List.getElem?_eq_none_iff] at here ⊢
      omega
    rw [beyond]
    rfl
  | some column =>
    obtain ⟨t, source, declared, _, conversion⟩ := source_of_convert counted h here
    rw [declared, Option.map_some, Option.map_some, (cells_convertColumn conversion).1]

theorem formed_convert : FormedFields r.rows r.columns := by
  obtain ⟨rows, _, present⟩ := (convert_eq_ok counted).mp h
  rw [formedFields_iff]
  intro column member
  obtain ⟨j, here⟩ := List.mem_iff_getElem?.mp member
  obtain ⟨t, source, _, _, conversion⟩ := source_of_convert counted h here
  obtain ⟨_, length, formed, _⟩ := cells_convertColumn conversion
  exact ⟨length.trans rows.symm, formedField_iff.mpr ⟨present column member, formed⟩⟩

/-- A converted cell is the narrowed value of the exact decoding. -/
theorem cell_convert {row j : Nat} {t : ColumnType} {source column : Field Column} (inside : row < b.rows)
    (declared : schema[j]? = some t) (given : b.columns[j]? = some source) (here : r.columns[j]? = some column) :
    ∃ v, value (exactly o) t (⟨source.content, row⟩ : ColumnCursor) = .ok v ∧
      narrowField? ⟨t.name, t.nullable, targetType options t⟩ v = some (column.content.cell row) := by
  obtain ⟨_, _, present⟩ := (convert_eq_ok counted).mp h
  obtain ⟨t', source', declared', given', conversion⟩ := source_of_convert counted h here
  obtain rfl : t = t' := Option.some.inj (declared.symm.trans declared')
  obtain rfl : source = source' := Option.some.inj (given.symm.trans given')
  obtain ⟨type, length, _, cells⟩ := cells_convertColumn conversion
  obtain ⟨v, decodes, null, narrowed⟩ := cells row inside
  refine ⟨v, decodes, ?_⟩
  rw [narrowField?, narrowed, if_neg]
  intro clash
  rw [Bool.and_eq_true, Bool.not_eq_true'] at clash
  have nullable : column.nullable = t.nullable := by rw [← fieldType_nullable, type]
  have none_null := present column (List.mem_of_getElem? here) (nullable.trans clash.1)
  rw [Column.hasNull, List.any_eq_false] at none_null
  exact none_null row (by simpa [length] using inside) (null.trans clash.2)

end

/-- Nothing stands in the way of a conversion but cells without a value or without a place, and exact
numbers with more fraction digits than digits. -/
theorem convert_isOk
    (scales : ∀ t ∈ schema, t.Everywhere fun u => u.kind = .fixed → options.higherPrecision = true →
      ∀ precision, u.precision = some precision → u.scale ≤ precision)
    (narrows : ∀ (row j : Nat) t source, row < b.rows → schema[j]? = some t → b.columns[j]? = some source →
      ∃ v cell, value (exactly o) t (⟨source.content, row⟩ : ColumnCursor) = .ok v ∧
        narrowField? ⟨t.name, t.nullable, targetType options t⟩ v = some cell) :
    ∃ r, convert options o schema b = .ok r := by
  obtain ⟨columns, converted⟩ : ∃ columns, (b.columns.zip schema).mapM
      (fun p => convertColumn options o b.rows p.2 p.1.content) = .ok columns := by
    refine mapM_isOk ?_
    rintro ⟨source, t⟩ member
    obtain ⟨j, here⟩ := List.mem_iff_getElem?.mp member
    obtain ⟨given, declared⟩ := List.getElem?_zip_eq_some.mp here
    refine convertColumn_isOk (scales t (List.mem_of_getElem? declared)) ?_
    intro row inside
    obtain ⟨v, cell, decodes, narrowed⟩ := narrows row j t source inside declared given
    exact ⟨v, cell, decodes, (narrowField?_eq_some narrowed).2⟩
  have converted := mapM_eq_ok.mp converted
  refine ⟨⟨b.rows, columns⟩, (convert_eq_ok counted).mpr ⟨rfl, converted, ?_⟩⟩
  intro column member never
  obtain ⟨j, here⟩ := List.mem_iff_getElem?.mp member
  obtain ⟨⟨source, t⟩, paired, conversion⟩ := get_of_forall₂ converted.flip here
  obtain ⟨given, declared⟩ := List.getElem?_zip_eq_some.mp paired
  obtain ⟨type, length, _, cells⟩ := cells_convertColumn conversion
  have nullable : column.nullable = t.nullable := by rw [← fieldType_nullable, type]
  rw [Column.hasNull, List.any_eq_false]
  intro row inside
  rw [List.mem_range, length] at inside
  obtain ⟨v, decodes, null, _⟩ := cells row inside
  obtain ⟨w, cell, same, narrowed⟩ := narrows row j t source inside declared given
  obtain rfl : w = v := Except.ok.inj (same.symm.trans decodes)
  rw [null, (narrowField?_eq_some narrowed).1 (nullable.symm.trans never)]
  simp

end

/-- What is not narrowed by the function is not narrowed at all. -/
theorem narrowField?_targetType {t : ColumnType} {v : Value} {cell : Cell} :
    narrowField? ⟨t.name, t.nullable, targetType options t⟩ v = some cell ↔
      NarrowedField ⟨t.name, t.nullable, targetType options t⟩ v cell :=
  narrowField?_eq_some_iff_narrowed
    (target_targetType (fun _ _ => trivial) (.of_forall (fun _ _ _ => trivial) t))

/-- Conversion gives the declared types and as many rows, every cell is the narrowed value of the exact
decoding, and the columns are well formed. Conversely it succeeds where every cell decodes and has a place
in its type and no exact number has more fraction digits than digits; a part that is never null has no
place for a null. -/
theorem convert_cells (options : BatchOptions) (o : DecodeOptions) (schema : Schema) (b : Batch)
    (counted : b.columns.length = schema.length) :
    (∀ r, convert options o schema b = .ok r →
      Column.fieldTypes r.columns = targetSchema options schema ∧ r.rows = b.rows ∧
      FormedFields r.rows r.columns ∧
      ∀ (row j : Nat) t source column, row < b.rows → schema[j]? = some t → b.columns[j]? = some source →
        r.columns[j]? = some column →
        ∃ v, Decode.value { o with higherPrecision := true } t (⟨source.content, row⟩ : ColumnCursor) = .ok v ∧
          NarrowedField ⟨t.name, t.nullable, targetType options t⟩ v (column.content.cell row)) ∧
    ((∀ t ∈ schema, t.Everywhere fun u => u.kind = .fixed → options.higherPrecision = true →
        ∀ precision, u.precision = some precision → u.scale ≤ precision) →
      (∀ (row j : Nat) t source, row < b.rows → schema[j]? = some t → b.columns[j]? = some source →
        ∃ v cell, Decode.value { o with higherPrecision := true } t (⟨source.content, row⟩ : ColumnCursor) = .ok v ∧
          NarrowedField ⟨t.name, t.nullable, targetType options t⟩ v cell) →
      ∃ r, convert options o schema b = .ok r) := by
  constructor
  · intro r h
    obtain ⟨rows, _, _⟩ := (convert_eq_ok counted).mp h
    refine ⟨fieldTypes_convert counted h, rows, formed_convert counted h, ?_⟩
    intro row j t source column inside declared given here
    obtain ⟨v, decodes, narrowed⟩ := cell_convert counted h inside declared given here
    exact ⟨v, decodes, narrowField?_targetType.mp narrowed⟩
  · intro scales narrows
    refine convert_isOk counted scales ?_
    intro row j t source inside declared given
    obtain ⟨v, cell, decodes, narrowed⟩ := narrows row j t source inside declared given
    exact ⟨v, cell, decodes, narrowField?_targetType.mpr narrowed⟩

/-- Columns of numbers, of numbers with two fraction digits, of flags, texts and bytes, of days, and of lists. -/
def mixedSchema : Schema :=
  [{ name := "n", kind := .fixed }, { name := "x", kind := .fixed, scale := 2 }, { name := "b", kind := .boolean },
    { name := "s", kind := .text }, { name := "y", kind := .binary }, { name := "d", kind := .date },
    { name := "a", kind := .array, fields := [{ kind := .fixed }] }]

/-- A list with a null inside, and a list that is null; an empty text, and a text that is null. -/
def mixedColumns : List (Field Column) :=
  [⟨"N", true, .word .int8 [⟨true, -7⟩, ⟨false, 0⟩]⟩, ⟨"X", true, .word .int64 [⟨true, 150⟩, ⟨true, -25⟩]⟩,
    ⟨"B", true, .boolean [some true, some false]⟩, ⟨"S", true, .utf8 false [some "", none]⟩,
    ⟨"Y", true, .binary false [some [1, 2], some []]⟩, ⟨"D", true, .word .date32 [⟨true, 10⟩, ⟨false, 0⟩]⟩,
    ⟨"A", true, .list true [true, false] [0, 2, 2] ⟨"item", true, .word .int8 [⟨true, 1⟩, ⟨false, 0⟩]⟩⟩]

def convertedColumns : List (Field Column) :=
  [⟨"n", true, .word .int64 [⟨true, -7⟩, ⟨false, 0⟩]⟩,
    ⟨"x", true, .float64 [some ⟨0x3FF8000000000000⟩, some ⟨0xBFD0000000000000⟩]⟩,
    ⟨"b", true, .boolean [some true, some false]⟩, ⟨"s", true, .utf8 false [some "", none]⟩,
    ⟨"y", true, .binary false [some [1, 2], some []]⟩, ⟨"d", true, .word .date32 [⟨true, 10⟩, ⟨false, 0⟩]⟩,
    ⟨"a", true, .list false [true, false] [0, 2, 2] ⟨"item", true, .word .int64 [⟨true, 1⟩, ⟨false, 0⟩]⟩⟩]

theorem convert_cells_mixed :
    mixedColumns.length = mixedSchema.length ∧
    convert {} {} mixedSchema ⟨2, mixedColumns⟩ = .ok ⟨2, convertedColumns⟩ ∧
    NarrowedField ⟨"n", true, .word .int64⟩ (.int (-7)) (.int (-7)) ∧
    NarrowedField ⟨"x", true, .float64⟩ (.decimal (-25) 2) (.float ⟨0xBFD0000000000000⟩) ∧
    NarrowedField ⟨"b", true, .boolean⟩ (.bool true) (.bool true) ∧
    NarrowedField ⟨"s", true, .utf8 false⟩ (.text "") (.text "") ∧
    NarrowedField ⟨"s", true, .utf8 false⟩ .null .null ∧
    NarrowedField ⟨"y", true, .binary false⟩ (.binary [1, 2]) (.binary [1, 2]) ∧
    NarrowedField ⟨"d", true, .word .date32⟩ (.date ⟨10, by decide⟩) (.int 10) ∧
    NarrowedField ⟨"a", true, .list false ⟨"item", true, .word .int64⟩⟩ (.array [.int 1, .null])
      (.list [.int 1, .null]) := by
  have first : Number.Binary64.ofScaled 150 2 = ⟨0x3FF8000000000000⟩ := by decide +kernel
  have second : Number.Binary64.ofScaled (-25) 2 = ⟨0xBFD0000000000000⟩ := by decide +kernel
  have converted : convert {} {} mixedSchema ⟨2, mixedColumns⟩ = .ok ⟨2, convertedColumns⟩ := by
    rw [convertedColumns, ← first, ← second]
    rfl
  have cells (row j : Nat) t source column v (decodes : Decode.value { higherPrecision := true } t
      (⟨source.content, row⟩ : ColumnCursor) = .ok v) (inside : row < 2) (declared : mixedSchema[j]? = some t)
      (given : mixedColumns[j]? = some source) (here : convertedColumns[j]? = some column) :
      NarrowedField ⟨t.name, t.nullable, targetType {} t⟩ v (column.content.cell row) := by
    obtain ⟨_, _, _, cells⟩ := (convert_cells {} {} mixedSchema ⟨2, mixedColumns⟩ rfl).1 _ converted
    obtain ⟨w, same, narrowed⟩ := cells row j t source column inside declared given here
    obtain rfl := Except.ok.inj (decodes.symm.trans same)
    exact narrowed
  exact ⟨rfl, converted, cells 0 0 _ _ _ _ rfl (by decide) rfl rfl rfl, cells 1 1 _ _ _ _ rfl (by decide) rfl rfl rfl,
    cells 0 2 _ _ _ _ rfl (by decide) rfl rfl rfl, cells 0 3 _ _ _ _ rfl (by decide) rfl rfl rfl,
    cells 1 3 _ _ _ _ rfl (by decide) rfl rfl rfl, cells 0 4 _ _ _ _ rfl (by decide) rfl rfl rfl,
    cells 0 5 _ _ _ _ rfl (by decide) rfl rfl rfl, cells 0 6 _ _ _ _ rfl (by decide) rfl rfl rfl⟩

end Columnar
end RowStream

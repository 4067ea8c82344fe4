import RowStream.Proofs.Carrying
import RowStream.Decode.ColumnRows

/-! # Columns that show logical values

The physical columns in which a type can arrive, and what is decoded from them. -/
namespace RowStream
open RowStream.Columnar RowStream.Number RowStream.Decode RowStream.Calendar

def integerTypes : List WordType := [.int8, .int16, .int32, .int64]

/-- A field of a struct for a field of a type: the one of its name, or the one at its place if no field has
the name. -/
def Stands (fields : List (Columnar.Field Column)) (index : Nat) (name : String) (f : Columnar.Field Column) : Prop :=
  f ∈ fields ∧ f.name = name ∨ (∀ g ∈ fields, g.name ≠ name) ∧ fields[index]? = some f

/-- The rows of columns that show a logical value. -/
inductive Shows : ColumnType → Column → Nat → Logical → Prop
  | null {t c row} (null : c.isNull row = true) : Shows t c row .null
  | integer {t w ps row n} (kind : t.kind = .fixed) (type : w ∈ integerTypes) (here : ps[row]? = some ⟨true, n⟩) :
      Shows t (.word w ps) row (.fixed n)
  | decimal {t precision ps row n} (kind : t.kind = .fixed) (here : ps[row]? = some ⟨true, n⟩) :
      Shows t (.word (.decimal128 precision t.scale) ps) row (.fixed n)
  | double {t ps row x} (kind : t.kind = .real) (here : ps[row]? = some (some x)) : Shows t (.float64 ps) row (.real x)
  | single {t ps row x} (kind : t.kind = .real) (here : ps[row]? = some (some x)) : Shows t (.float32 ps) row (.real x)
  | boolean {t ps row b} (kind : t.kind = .boolean) (here : ps[row]? = some (some b)) :
      Shows t (.boolean ps) row (.bool b)
  | days {t w ps row n} (kind : t.kind = .date) (type : w ∈ .date32 :: integerTypes)
      (here : ps[row]? = some ⟨true, n⟩) : Shows t (.word w ps) row (.date n)
  | scaled {t w ps row n} (kind : t.kind ∈ ColumnType.clockKinds) (type : w ∈ integerTypes)
      (here : ps[row]? = some ⟨true, n⟩) : Shows t (.word w ps) row (.scaled n)
  /-- Whole seconds and nanos. -/
  | parts {t valid f g w ps v qs row} {n seconds : Int} {nanos : Nat} (kind : t.kind ∈ [.timestampNtz, .timestampLtz])
      (filled : valid[row]? = some true) (epoch : f = .word w ps) (fraction : g = .word v qs)
      (types : w ∈ integerTypes ∧ v ∈ integerTypes) (here : ps[row]? = some ⟨true, seconds⟩)
      (rest : qs[row]? = some ⟨true, (nanos : Int)⟩) (nanos_lt : nanos < nanosPerSecond)
      (sum : n * (10 ^ (9 - t.scale) : Nat) = seconds * nanosPerSecond + nanos) {fName fNull gName gNull} :
      Shows t (.struct valid [⟨fName, fNull, f⟩, ⟨gName, gNull, g⟩]) row (.scaled n)
  | zoned {t valid w ps v qs row} {n : Int} {offset : Nat} (kind : t.kind = .timestampTz)
      (filled : valid[row]? = some true)
      (types : w ∈ integerTypes ∧ v ∈ integerTypes) (here : ps[row]? = some ⟨true, n⟩)
      (stored : qs[row]? = some ⟨true, (offset : Int)⟩) {fName fNull gName gNull} :
      Shows t (.struct valid [⟨fName, fNull, .word w ps⟩, ⟨gName, gNull, .word v qs⟩]) row (.zoned n offset)
  | zonedParts {t valid w ps v qs u us row} {n seconds : Int} {nanos offset : Nat} (kind : t.kind = .timestampTz)
      (filled : valid[row]? = some true) (types : w ∈ integerTypes ∧ v ∈ integerTypes ∧ u ∈ integerTypes)
      (here : ps[row]? = some ⟨true, seconds⟩) (rest : qs[row]? = some ⟨true, (nanos : Int)⟩)
      (stored : us[row]? = some ⟨true, (offset : Int)⟩) (nanos_lt : nanos < nanosPerSecond)
      (sum : n * (10 ^ (9 - t.scale) : Nat) = seconds * nanosPerSecond + nanos)
      {fName fNull gName gNull hName hNull} :
      Shows t (.struct valid [⟨fName, fNull, .word w ps⟩, ⟨gName, gNull, .word v qs⟩, ⟨hName, hNull, .word u us⟩]) row
        (.zoned n offset)
  | binary {t large ps row bytes} (kind : t.kind = .binary) (here : ps[row]? = some (some bytes)) :
      Shows t (.binary large ps) row (.binary bytes)
  | fixedBinary {t size ps row bytes} (kind : t.kind = .binary) (here : ps[row]? = some (some bytes)) :
      Shows t (.fixedBinary size ps) row (.binary bytes)
  | text {t large ps row s} (kind : t.kind ∈ [.text, .variant, .object, .array]) (plain : t.isStructured = false)
      (here : ps[row]? = some (some s)) : Shows t (.utf8 large ps) row (.text s)
  | object {t valid fields row ls} {child : Nat → Columnar.Field Column} (kind : t.kind = .object)
      (structured : t.isStructured = true) (filled : valid[row]? = some true) (length : ls.length = t.fields.length)
      (distinct : (fields.map (·.name)).Nodup)
      (named : ∀ (j : Nat) u, t.fields[j]? = some u → Stands fields j u.name (child j))
      (shown : ∀ (j : Nat) u l, t.fields[j]? = some u → ls[j]? = some l → Shows u (child j).content row l) :
      Shows t (.struct valid fields) row (.object ls)
  | array {t large valid offsets item row ls} (kind : t.kind = .array) (structured : t.isStructured = true)
      (filled : valid[row]? = some true) (length : ls.length = (Column.partsOf offsets row).length)
      (shown : ∀ (j i : Nat) l, (Column.partsOf offsets row)[j]? = some i → ls[j]? = some l →
        Shows (t.part 0) item.content i l) : Shows t (.list large valid offsets item) row (.array ls)
  | map {t form valid offsets key value row ls} (kind : t.kind = .map) (filled : valid[row]? = some true)
      (length : ls.length = (Column.partsOf offsets row).length)
      (keys : ∀ (j i : Nat) e, (Column.partsOf offsets row)[j]? = some i → ls[j]? = some e →
        Shows (t.part 0) key.content i e.1)
      (values : ∀ (j i : Nat) e, (Column.partsOf offsets row)[j]? = some i → ls[j]? = some e →
        Shows (t.part 1) value.content i e.2) : Shows t (.map form valid offsets key value) row (.map ls)

namespace ColumnCursor
variable {t : ColumnType} {o : DecodeOptions} {row : Nat} {n : Int} {w : WordType} {ps : List Slot}

theorem intAt?_word (type : w ∈ integerTypes) (here : ps[row]? = some ⟨true, n⟩) :
    intAt? (.word w ps) row = some n := by
  have value : (ps.getD row default).value = n := by rw [List.getD_eq_getElem?_getD, here]; rfl
  simp only [integerTypes, List.mem_cons, List.not_mem_nil, or_false] at type
  rcases type with rfl | rfl | rfl | rfl <;> rw [intAt?, value]

theorem cursor_isNull (c : Column) (row : Nat) : Cursor.isNull (⟨c, row⟩ : ColumnCursor) = c.isNull row := rfl

theorem cursor_leaf (c : ColumnCursor) : Cursor.leaf c t o = c.leaf t o := rfl

theorem isNull_word (here : ps[row]? = some ⟨true, n⟩) : Cursor.isNull (⟨.word w ps, row⟩ : ColumnCursor) = false := by
  rw [cursor_isNull, Column.isNull, List.getD_eq_getElem?_getD, here]
  rfl

theorem isNone_place {α : Type} {places : List (Option α)} {a : α} (here : places[row]? = some (some a)) :
    (places.getD row none).isNone = false := by
  rw [List.getD_eq_getElem?_getD, here]
  rfl

theorem not_valid {valid : List Bool} (filled : valid[row]? = some true) : (!valid.getD row false) = false := by
  rw [List.getD_eq_getElem?_getD, filled]
  rfl

theorem text?_utf8 {large : Bool} {texts : List (Option String)} {s : String} (here : texts[row]? = some (some s)) :
    (⟨.utf8 large texts, row⟩ : ColumnCursor).text? = some s := by
  simp only [ColumnCursor.text?, List.getD_eq_getElem?_getD, here]
  rfl

theorem isStructured_of_kind (h : t.kind ∉ [.object, .array, .map]) : t.isStructured = false := by
  unfold ColumnType.isStructured
  cases kind : t.kind <;> simp_all

theorem fieldOf?_eq {fields : List (Columnar.Field Column)} {f : Columnar.Field Column} {index : Nat} {name : String}
    (distinct : (fields.map (·.name)).Nodup) (stands : Stands fields index name f) :
    fieldOf? fields index name = some f := by
  rcases stands with ⟨member, rfl⟩ | ⟨other, here⟩
  · rw [fieldOf?, find?_name distinct member]
    rfl
  · have none_named : fields.find? (·.name == name) = none := by
      rw [List.find?_eq_none]
      intro g member
      simpa using other g member
    rw [fieldOf?, none_named, here]
    rfl

theorem partInt?_cons_zero {f : Columnar.Field Column} {fs : List (Columnar.Field Column)} :
    partInt? (f :: fs) 0 row = intAt? f.content row := rfl

theorem partInt?_cons_succ {f : Columnar.Field Column} {fs : List (Columnar.Field Column)} {index : Nat} :
    partInt? (f :: fs) (index + 1) row = partInt? fs index row := rfl

theorem nanosOf_ok {c : ColumnCursor} {kind : TypeKind} {nanos : Nat} (h : nanos < nanosPerSecond) :
    c.nanosOf kind nanos = .ok nanos := by
  rw [ColumnCursor.nanosOf, if_pos]
  · simp
  · rw [Range.mem_def]
    simp only [nanosPerSecond] at h
    simp only [Range.nat32]
    omega

/-- Seconds and nanos of a struct. -/
theorem epochParts_struct {kind : TypeKind} {scale nanos : Nat} {seconds : Int} {valid : List Bool}
    {f g : Columnar.Field Column} {rest : List (Columnar.Field Column)} (fits : scale ≤ 9)
    (epoch : intAt? f.content row = some seconds)
    (fraction : intAt? g.content row = some (nanos : Int)) (nanos_lt : nanos < nanosPerSecond)
    (sum : n * (10 ^ (9 - scale) : Nat) = seconds * nanosPerSecond + nanos) :
    epochParts ⟨.struct valid (f :: g :: rest), row⟩ kind scale = .ok (secondsOf n scale, Decode.nanosOf n scale) := by
  obtain ⟨same_seconds, same_nanos⟩ := parts_of_sum fits nanos_lt sum
  have noNumber : ColumnCursor.int? ⟨.struct valid (f :: g :: rest), row⟩ = none := rfl
  simp only [epochParts, noNumber, partInt?_cons_zero, partInt?_cons_succ, epoch, fraction, nanosOf_ok nanos_lt,
    same_seconds, same_nanos]
  rfl

theorem toOption_instant {wrap : Instant → Value} {r : Result (Int × Nat)} {scale : Nat}
    (h : r = .ok (secondsOf n scale, Decode.nanosOf n scale)) :
    (r.bind fun p => (instantOfParts p.1 p.2).map wrap).toOption = (Logical.instant? n scale).map wrap := by
  rw [h, ← toOption_instantOfParts]
  exact toOption_map _ _

/-- A leaf of scaled seconds, however its parts are found. -/
theorem toOption_timestamp {c : ColumnCursor} (kind : t.kind ∈ [.timestampNtz, .timestampLtz]) (noText : c.text? = none)
    (parts : c.epochParts t.kind t.scale = .ok (secondsOf n t.scale, Decode.nanosOf n t.scale)) :
    (c.leaf t o).toOption = (Logical.scaled n).value? o t := by
  rw [Logical.value?, Logical.clock?]
  simp only [List.mem_cons, List.not_mem_nil, or_false] at kind
  rcases kind with kind | kind
  · simp only [leaf, kind, timestampLeaf, noText]
    rw [kind] at parts
    exact toOption_instant parts
  · simp only [leaf, kind, timestampLeaf, noText]
    rw [kind] at parts
    exact toOption_instant parts

/-- What a column shows is what its rows carry. -/
theorem carries_of_shows {c : Column} {l : Logical} (h : Shows t c row l) (regular : t.Everywhere ColumnType.Regular) :
    Carries o t (⟨c, row⟩ : ColumnCursor) l := by
  induction h with
  | null null => exact .null null
  | @integer t w ps row n kind type here =>
    refine .leaf (isNull_word here) (isStructured_of_kind (by simp [kind])) ?_
    simp only [cursor_leaf, leaf, kind, fixedLeaf, ColumnCursor.int?, intAt?_word type here]
    rfl
  | @decimal t precision ps row n kind here =>
    refine .leaf (isNull_word here) (isStructured_of_kind (by simp [kind])) ?_
    simp [cursor_leaf, leaf, kind, fixedLeaf, ColumnCursor.int?, intAt?, here, Except.toOption, Logical.value?]
  | @double t ps row x kind here =>
    refine .leaf (isNone_place here) (isStructured_of_kind (by simp [kind])) ?_
    simp [cursor_leaf, leaf, kind, realLeaf, here, Except.toOption, Logical.value?]
  | @single t ps row x kind here =>
    refine .leaf (isNone_place here) (isStructured_of_kind (by simp [kind])) ?_
    simp [cursor_leaf, leaf, kind, realLeaf, here, Except.toOption, Logical.value?]
  | @boolean t ps row b kind here =>
    refine .leaf (isNone_place here) (isStructured_of_kind (by simp [kind])) ?_
    simp [cursor_leaf, leaf, kind, booleanLeaf, here, Except.toOption, Logical.value?]
  | @days t w ps row n kind type here =>
    refine .leaf (isNull_word here) (isStructured_of_kind (by simp [kind])) ?_
    rw [Logical.value?]
    have days : (dateOfDays n).toOption = Date.ofDay? n := by
      rw [dateOfDays]
      cases Date.ofDay? n <;> rfl
    rcases List.mem_cons.mp type with rfl | type
    · simp only [cursor_leaf, leaf, kind, dateLeaf, List.getD_eq_getElem?_getD, here, toOption_map, ← days]
      rfl
    · have number : ColumnCursor.int? ⟨.word w ps, row⟩ = some n := intAt?_word type here
      rw [← days, ← toOption_map, cursor_leaf]
      simp only [leaf, kind, dateLeaf, number]
      simp only [integerTypes, List.mem_cons, List.not_mem_nil, or_false] at type
      rcases type with rfl | rfl | rfl | rfl <;> rfl
  | @scaled t w ps row n kind type here =>
    have fits := regular.here.scale_le kind
    have number : ColumnCursor.int? ⟨.word w ps, row⟩ = some n := intAt?_word type here
    refine .leaf (isNull_word here) (ColumnType.isStructured_of_clock kind) ?_
    rcases List.mem_cons.mp kind with time | kind
    · rw [Logical.value?, Logical.clock?]
      simp only [cursor_leaf, leaf, time, timeLeaf, number, splitScaled_eq n fits]
      show ((timeOfParts _ _).map _).toOption = _
      rw [toOption_map, toOption_timeOfParts]
    · refine toOption_timestamp kind rfl ?_
      simp only [epochParts, number, splitScaled_eq n fits]
  | @parts t valid f g w ps v qs row n seconds nanos kind filled epoch fraction types here rest nanos_lt sum =>
    have clock : t.kind ∈ ColumnType.clockKinds := List.mem_cons_of_mem TypeKind.time kind
    refine .leaf (not_valid filled) (ColumnType.isStructured_of_clock clock) ?_
    subst epoch fraction
    exact toOption_timestamp kind rfl (epochParts_struct (regular.here.scale_le clock) (intAt?_word types.1 here)
      (intAt?_word types.2 rest) nanos_lt sum)
  | @zoned t valid w ps v qs row n offset kind filled types here stored =>
    have fits : t.scale ≤ 9 := regular.here.seconds (by simp [kind])
    refine .leaf (not_valid filled) (isStructured_of_kind (by simp [kind])) ?_
    rw [Logical.value?]
    simp only [cursor_leaf, leaf, kind, zonedLeaf, List.length_cons, List.length_nil, partInt?_cons_zero,
      partInt?_cons_succ, intAt?_word types.1 here, intAt?_word types.2 stored, splitScaled_eq n fits]
    show ((zonedOfParts _ _ _).map _).toOption = _
    rw [toOption_map, toOption_zonedOfParts]
  | @zonedParts t valid w ps v qs u us row n seconds nanos offset kind filled types here rest stored nanos_lt sum =>
    have fits : t.scale ≤ 9 := regular.here.seconds (by simp [kind])
    obtain ⟨same_seconds, same_nanos⟩ := parts_of_sum fits nanos_lt sum
    refine .leaf (not_valid filled) (isStructured_of_kind (by simp [kind])) ?_
    rw [Logical.value?]
    simp only [cursor_leaf, leaf, kind, zonedLeaf, List.length_cons, List.length_nil, partInt?_cons_zero,
      partInt?_cons_succ, intAt?_word types.1 here, intAt?_word types.2.1 rest, intAt?_word types.2.2 stored,
      nanosOf_ok nanos_lt]
    show ((zonedOfParts _ _ _).map _).toOption = _
    rw [toOption_map, ← same_seconds, ← same_nanos, toOption_zonedOfParts]
  | @binary t large ps row bytes kind here =>
    refine .leaf (isNone_place here) (isStructured_of_kind (by simp [kind])) ?_
    simp [cursor_leaf, leaf, kind, binaryLeaf, here, Except.toOption, Logical.value?]
  | @fixedBinary t size ps row bytes kind here =>
    refine .leaf (isNone_place here) (isStructured_of_kind (by simp [kind])) ?_
    simp [cursor_leaf, leaf, kind, binaryLeaf, here, Except.toOption, Logical.value?]
  | @text t large ps row s kind plain here =>
    refine .leaf (isNone_place here) plain ?_
    simp only [List.mem_cons, List.not_mem_nil, or_false] at kind
    rcases kind with kind | kind | kind | kind <;>
      simp only [cursor_leaf, leaf, kind, textLeaf, text?_utf8 here, Decode.text, Logical.value?] <;> rfl
  | @object t valid fields row ls child kind structured filled length distinct named _ ih =>
    refine @Carries.object _ _ _ _ _ _ (fun j => ⟨(child j).content, row⟩) ?_ structured kind length ?_ ?_
    · exact not_valid filled
    · intro j u declared
      show ColumnCursor.field _ j u = _
      simp only [ColumnCursor.field, fieldOf?_eq distinct (named j u declared)]
    · intro j u l declared here
      exact ih j u l declared here (regular.field (List.mem_of_getElem? declared))
  | @array t large valid offsets item row ls kind structured filled length _ ih =>
    refine .array ?_ structured kind rfl (by simpa using length) ?_
    · exact not_valid filled
    · intro j d l place here
      rw [List.getElem?_map, Option.map_eq_some_iff] at place
      obtain ⟨i, known, rfl⟩ := place
      exact ih j i l known here (regular.part ColumnType.regular_plainText 0)
  | @map t form valid offsets key value row ls kind filled length _ _ ihKeys ihValues =>
    refine .map ?_ kind rfl (by simpa using length) ?_ ?_
    · exact not_valid filled
    · intro j d e place here
      rw [List.getElem?_map, Option.map_eq_some_iff] at place
      obtain ⟨i, known, rfl⟩ := place
      exact ihKeys j i e known here (regular.part ColumnType.regular_plainText 0)
    · intro j d e place here
      rw [List.getElem?_map, Option.map_eq_some_iff] at place
      obtain ⟨i, known, rfl⟩ := place
      exact ihValues j i e known here (regular.part ColumnType.regular_plainText 1)

end ColumnCursor
end RowStream

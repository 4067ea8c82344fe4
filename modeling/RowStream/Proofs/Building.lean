import RowStream.Proofs.PartOffsets

/-! # Columns show the values that they are built from

A built column has the type that it was built for, its children have the lengths that it says, and every
place shows the narrowed value. The induction is on the type. -/
namespace RowStream.Columnar

/-- A column that shows the values, place by place. -/
structure Holds (type : DataType) (vs : List Value) (c : Column) : Prop where
  type_eq : c.type = type
  length_eq : c.length = vs.length
  nulls : ∀ (i : Nat) v, vs[i]? = some v → c.isNull i = v.isNull
  cells : ∀ (i : Nat) v, vs[i]? = some v → narrow? type v = some (c.cell i)
  formed : Formed c

theorem shaped_null (type : DataType) : Shaped type .null := by
  cases type <;> simp [Shaped]

theorem shapedField_iff {f : Field DataType} {v : Value} : ShapedField f v ↔ Shaped f.content v := by
  obtain ⟨name, nullable, type⟩ := f
  rw [ShapedField]

@[simp] theorem narrowField?_nullable (name : String) (type : DataType) (v : Value) :
    narrowField? ⟨name, true, type⟩ v = narrow? type v := by
  simp [narrowField?]

theorem getD_validity {vs : List Value} {i : Nat} {v : Value} (h : vs[i]? = some v) :
    (validity vs).getD i false = !v.isNull := by
  simp [validity, h]

theorem buildField_eq_ok {f : Field DataType} {vs : List Value} {column : Field Column} :
    buildField f vs = .ok column ↔
      ∃ c, build f.content vs = .ok c ∧ column = ⟨f.name, f.nullable, c⟩ := by
  rw [buildField, map_eq_ok]
  simp only [eq_comm]

theorem Holds.fieldType {f : Field DataType} {vs : List Value} {c : Column} (h : Holds f.content vs c) :
    Column.fieldType ⟨f.name, f.nullable, c⟩ = f := by
  rw [Column.fieldType, h.type_eq]

theorem places_eq_ok {α : Type} {type : DataType} {leaf? : Value → Option α} {vs : List Value} {ps : List (Option α)}
    (h : places type leaf? vs = .ok ps) :
    List.Forall₂ (fun v p => p.isNone = v.isNull ∧ ∀ a, p = some a → leaf? v = some a) vs ps := by
  refine (mapM_eq_ok.mp h).imp ?_
  intro v p place
  cases null : v.isNull with
  | true =>
    simp only [null, if_true, Except.ok.injEq] at place
    simp [← place]
  | false =>
    simp only [null, Bool.false_eq_true, if_false] at place
    cases found : leaf? v with
    | none => simp [found] at place
    | some a =>
      simp only [found, Except.ok.injEq] at place
      simp [← place]

/-- A column without parts, given by what its places are. -/
theorem holds_leaf {α : Type} {type : DataType} {leaf? : Value → Option α} {wrap : α → Cell} {vs : List Value}
    {ps : List (Option α)} {c : Column} (found : places type leaf? vs = .ok ps)
    (narrow : ∀ v, narrow? type v = unlessNull v ((leaf? v).map wrap)) (type_eq : c.type = type)
    (length : c.length = ps.length) (nulls : ∀ i, c.isNull i = (ps.getD i none).isNone)
    (cells : ∀ (i : Nat) p, ps[i]? = some p → (∀ a, p = some a → ∃ v, leaf? v = some a) →
      c.cell i = Column.cellOf wrap p)
    (formed : Formed c) : Holds type vs c := by
  have places := places_eq_ok found
  refine ⟨type_eq, length.trans places.length_eq.symm, ?_, ?_, formed⟩
  · intro i v here
    obtain ⟨p, known, null, _⟩ := get_of_forall₂ places here
    rw [nulls, List.getD_eq_getElem?_getD, known, ← null]
    rfl
  · intro i v here
    obtain ⟨p, known, null, some_eq⟩ := get_of_forall₂ places here
    rw [narrow, cells i p known fun a here => ⟨v, some_eq a here⟩, unlessNull, ← null]
    cases p with
    | none => rfl
    | some a => simp [some_eq a rfl, Column.cellOf]

theorem isShown_of_narrowWord? {w : WordType} {v : Value} {n : Int} (h : narrowWord? w v = some n) :
    Column.isShown w = true := by
  cases w with
  | time64 unit => cases unit <;> simp_all [narrowWord?, Column.isShown]
  | _ => simp_all [narrowWord?, Column.isShown]

theorem holds_word {w : WordType} {vs : List Value} {ps : List (Option Int)}
    (found : places (.word w) (narrowWord? w) vs = .ok ps) : Holds (.word w) vs (.word w (ps.map Slot.ofOption)) := by
  refine @holds_leaf _ _ _ .int _ _ _ found (fun v => by rw [narrow?]) rfl (by simp [Column.length]) ?_ ?_ trivial
  · intro i
    rw [Column.isNull, List.getD_eq_getElem?_getD, List.getD_eq_getElem?_getD, List.getElem?_map]
    cases ps[i]? with
    | none => rfl
    | some p => cases p <;> rfl
  · intro i p here known
    rw [Column.cell, List.getD_eq_getElem?_getD, List.getElem?_map, here]
    cases p with
    | none => rfl
    | some n =>
      obtain ⟨v, narrowed⟩ := known n rfl
      simp [Column.wordCell, Slot.ofOption, Column.cellOf, isShown_of_narrowWord? narrowed]

theorem allParts_eq_ok {α : Type} {type : DataType} {parts? : Value → Option (List α)} {vs : List Value}
    {rows : List (List α)} :
    allParts type parts? vs = .ok rows ↔ List.Forall₂ (fun v parts => parts? v = some parts) vs rows := by
  rw [allParts, mapM_eq_ok]
  constructor
  · intro h
    refine h.imp ?_
    intro v parts place
    cases known : parts? v <;> simp_all
  · intro h
    refine h.imp ?_
    intro v parts known
    rw [known]

/-- Children of a struct from an index on: `rows` are the fields of the values, none for nulls. -/
theorem holds_fields {fields : List (Field DataType)} {index : Nat} {rows : List (List Value)}
    {columns : List (Field Column)} (nullable : ∀ f ∈ fields, f.nullable = true)
    (holds : ∀ f ∈ fields, ∀ vs c, (∀ v ∈ vs, Shaped f.content v) → build f.content vs = .ok c → Holds f.content vs c)
    (shaped : ∀ row ∈ rows, row = [] ∨
      ∃ parts : List (String × Value), row = parts.map (·.2) ∧ ShapedFields fields (parts.drop index))
    (built : buildFields fields index rows = .ok columns) :
    Column.fieldTypes columns = fields ∧ FormedFields rows.length columns ∧
    ∀ (i : Nat) (parts : List (String × Value)), rows[i]? = some (parts.map (·.2)) →
      ShapedFields fields (parts.drop index) →
      narrowFields? fields (parts.drop index) = some (Column.fieldCells columns i) := by
  induction fields generalizing index columns with
  | nil =>
    obtain rfl : columns = [] := by simpa [buildFields] using built.symm
    refine ⟨rfl, trivial, ?_⟩
    intro i parts _ fits
    cases dropped : parts.drop index with
    | nil => rfl
    | cons p ps => simp [dropped, ShapedFields] at fits
  | cons f fs ih =>
    rw [buildFields] at built
    obtain ⟨column, first, others⟩ := bind_eq_ok.mp built
    obtain ⟨rest, later, all⟩ := bind_eq_ok.mp others
    cases all
    obtain ⟨c, content, rfl⟩ := buildField_eq_ok.mp first
    -- A row with this field has it first among those from the index on.
    have here : ∀ parts : List (String × Value), ShapedFields (f :: fs) (parts.drop index) →
        ∃ p, parts[index]? = some p ∧ f.name = p.1 ∧ ShapedField f p.2 ∧ ShapedFields fs (parts.drop (index + 1)) ∧
          parts.drop index = p :: parts.drop (index + 1) := by
      intro parts fits
      cases dropped : parts.drop index with
      | nil => simp [dropped, ShapedFields] at fits
      | cons p ps =>
        have known : parts[index]? = some p := by
          rw [← Nat.add_zero index, ← List.getElem?_drop, dropped]
          rfl
        have others : ps = parts.drop (index + 1) := by
          rw [← List.drop_drop, dropped]
          rfl
        rw [dropped] at fits
        exact ⟨p, known, fits.1, fits.2.1, others ▸ fits.2.2, by rw [others]⟩
    have column : Holds f.content (rows.map fun row => row.getD index .null) c := by
      refine holds f List.mem_cons_self _ _ ?_ content
      intro v member
      obtain ⟨row, known, rfl⟩ := List.mem_map.mp member
      rcases shaped row known with rfl | ⟨parts, rfl, fits⟩
      · exact shaped_null _
      · obtain ⟨p, found, _, fitsHere, _⟩ := here parts fits
        rw [List.getD_eq_getElem?_getD, List.getElem?_map, found]
        exact shapedField_iff.mp fitsHere
    obtain ⟨types, formed, cells⟩ := ih (fun g member => nullable g (List.mem_cons_of_mem f member))
      (fun g member => holds g (List.mem_cons_of_mem f member)) (by
        intro row known
        rcases shaped row known with rfl | ⟨parts, rfl, fits⟩
        · exact .inl rfl
        · obtain ⟨_, _, _, _, fitsLater, _⟩ := here parts fits
          exact .inr ⟨parts, rfl, fitsLater⟩) later
    have always : f.nullable = true := nullable f List.mem_cons_self
    refine ⟨?_, ⟨?_, ⟨?_, column.formed⟩, formed⟩, ?_⟩
    · rw [Column.fieldTypes, types, column.fieldType]
    · exact column.length_eq.trans (List.length_map _)
    · simp [always]
    · intro i parts known fits
      obtain ⟨p, found, name, _, fitsLater, split⟩ := here parts fits
      have cell : narrowField? f p.2 = some (c.cell i) := by
        have : narrowField? f p.2 = narrow? f.content p.2 := by
          rw [narrowField?, always]
          rfl
        rw [this]
        refine column.cells i _ ?_
        simp [known, found]
      rw [split, narrowFields?, if_pos name, cell, cells i parts known fitsLater]
      rfl

theorem holds_struct {fields : List (Field DataType)} (nullable : ∀ f ∈ fields, f.nullable = true)
    (holds : ∀ f ∈ fields, ∀ vs c, (∀ v ∈ vs, Shaped f.content v) → build f.content vs = .ok c → Holds f.content vs c)
    {vs : List Value} {c : Column} (shaped : ∀ v ∈ vs, Shaped (.struct fields) v)
    (built : build (.struct fields) vs = .ok c) : Holds (.struct fields) vs c := by
  rw [build] at built
  obtain ⟨rows, found, built⟩ := bind_eq_ok.mp built
  obtain ⟨columns, children, built⟩ := bind_eq_ok.mp built
  cases built
  have places := allParts_eq_ok.mp found
  -- Whatever has fields is null or an object.
  have parts_of : ∀ v ∈ vs, ∀ row, objectParts? v = some row → (v = .null ∧ row = []) ∨
      ∃ parts, v = .object parts ∧ row = parts.map (·.2) ∧ ShapedFields fields parts := by
    intro v member row known
    cases v with
    | null => exact .inl ⟨rfl, by simpa [objectParts?] using known.symm⟩
    | object parts => exact .inr ⟨parts, rfl, by simpa [objectParts?] using known.symm, shaped _ member⟩
    | _ => simp [objectParts?] at known
  have rows_shaped : ∀ row ∈ rows, row = [] ∨
      ∃ parts : List (String × Value), row = parts.map (·.2) ∧ ShapedFields fields (parts.drop 0) := by
    intro row member
    obtain ⟨i, here⟩ := List.mem_iff_getElem?.mp member
    obtain ⟨v, known, from_v⟩ := get_of_forall₂ places.flip here
    rcases parts_of v (List.mem_of_getElem? known) row from_v with ⟨_, empty⟩ | ⟨parts, _, same, fits⟩
    · exact .inl empty
    · exact .inr ⟨parts, same, fits⟩
  obtain ⟨types, formed, cells⟩ := holds_fields nullable holds rows_shaped children
  refine ⟨?_, by simp [Column.length, validity], ?_, ?_, ?_⟩
  · rw [Column.type, types]
  · intro i v here
    rw [Column.isNull, getD_validity here, Bool.not_not]
  · intro i v here
    obtain ⟨row, known, from_v⟩ := get_of_forall₂ places here
    rw [narrow?, Column.cell, getD_validity here]
    rcases parts_of v (List.mem_of_getElem? here) row from_v with ⟨rfl, _⟩ | ⟨parts, rfl, rfl, fits⟩
    · rfl
    · have narrowed := cells i parts known fits
      rw [List.drop_zero] at narrowed
      simp [unlessNull, Value.isNull, objectFields?, narrowed]
  · rw [Formed, validity, List.length_map, places.length_eq]
    exact formed

theorem mem_flatten_of_forall₂ {α : Type} {parts? : Value → Option (List α)} {vs : List Value} {rows : List (List α)}
    (places : List.Forall₂ (fun v parts => parts? v = some parts) vs rows) {x : α} (h : x ∈ rows.flatten) :
    ∃ v ∈ vs, ∃ parts, parts? v = some parts ∧ x ∈ parts := by
  obtain ⟨parts, member, inside⟩ := List.mem_flatten.mp h
  obtain ⟨i, here⟩ := List.mem_iff_getElem?.mp member
  obtain ⟨v, known, from_v⟩ := get_of_forall₂ places.flip here
  exact ⟨v, List.mem_of_getElem? known, parts, from_v, inside⟩

theorem shaped_items {name : String} {type : DataType} {vs : List Value} {rows : List (List Value)}
    (places : List.Forall₂ (fun v parts => arrayParts? v = some parts) vs rows)
    (shaped : ∀ v ∈ vs, Shaped (.list false ⟨name, true, type⟩) v) : ∀ x ∈ rows.flatten, Shaped type x := by
  intro x member
  obtain ⟨v, known, parts, from_v, inside⟩ := mem_flatten_of_forall₂ places member
  have fits := shaped v known
  cases v with
  | array items =>
    obtain rfl : items = parts := by simpa [arrayParts?] using from_v
    rw [Shaped] at fits
    exact shapedField_iff.mp (fits x inside)
  | null =>
    obtain rfl : [] = parts := by simpa [arrayParts?] using from_v
    cases inside
  | _ => simp [arrayParts?] at from_v

theorem shaped_entries {form : EntriesForm} {keyName valueName : String} {keyType type : DataType} {vs : List Value}
    {rows : List (List (Value × Value))} (places : List.Forall₂ (fun v parts => mapParts? v = some parts) vs rows)
    (shaped : ∀ v ∈ vs, Shaped (.map form ⟨keyName, false, keyType⟩ ⟨valueName, true, type⟩) v) :
    ∀ e ∈ rows.flatten, Shaped keyType e.1 ∧ Shaped type e.2 := by
  intro e member
  obtain ⟨v, known, parts, from_v, inside⟩ := mem_flatten_of_forall₂ places member
  have fits := shaped v known
  cases v with
  | map entries =>
    obtain rfl : entries = parts := by simpa [mapParts?] using from_v
    rw [Shaped] at fits
    obtain ⟨key, value⟩ := fits e inside
    exact ⟨shapedField_iff.mp key, shapedField_iff.mp value⟩
  | null =>
    obtain rfl : [] = parts := by simpa [mapParts?] using from_v
    cases inside
  | _ => simp [mapParts?] at from_v

theorem holds_list {name : String} {type : DataType}
    (holds : ∀ vs c, (∀ v ∈ vs, Shaped type v) → build type vs = .ok c → Holds type vs c)
    {vs : List Value} {c : Column} (shaped : ∀ v ∈ vs, Shaped (.list false ⟨name, true, type⟩) v)
    (built : build (.list false ⟨name, true, type⟩) vs = .ok c) : Holds (.list false ⟨name, true, type⟩) vs c := by
  rw [build] at built
  obtain ⟨rows, found, rest⟩ := bind_eq_ok.mp built
  obtain ⟨column, items, all⟩ := bind_eq_ok.mp rest
  cases all
  obtain ⟨d, content, rfl⟩ := buildField_eq_ok.mp items
  have places := allParts_eq_ok.mp found
  have column : Holds type rows.flatten d := holds _ _ (shaped_items places shaped) content
  refine ⟨?_, by simp [Column.length, validity], ?_, ?_, ?_⟩
  · rw [Column.type, Column.fieldType, column.type_eq]
  · intro i v here
    rw [Column.isNull, getD_validity here, Bool.not_not]
  · intro i v here
    obtain ⟨parts, known, from_v⟩ := get_of_forall₂ places here
    rw [narrow?, Column.cell, getD_validity here, Bool.not_not]
    cases null : v.isNull with
    | true =>
      rw [unlessNull, null]
      rfl
    | false =>
      have narrowed : parts.mapM (narrowField? ⟨name, true, type⟩) = some _ :=
        mapM_parts (partsOf_flatten known) fun k x found => by
          rw [narrowField?_nullable, column.cells k x found]
      simp only [unlessNull, null, Bool.false_eq_true, if_false, from_v, Option.bind_some, narrowed, Option.map_some]
      rfl
  · refine ⟨?_, by simp, column.formed⟩
    simp only [validity, List.length_map, places.length_eq, column.length_eq]
    exact offsets_offsetsFrom rows

theorem holds_map {form : EntriesForm} {keyName valueName : String} {keyType type : DataType}
    (holdsKeys : ∀ vs c, (∀ v ∈ vs, Shaped keyType v) → build keyType vs = .ok c → Holds keyType vs c)
    (holdsValues : ∀ vs c, (∀ v ∈ vs, Shaped type v) → build type vs = .ok c → Holds type vs c)
    {vs : List Value} {c : Column}
    (shaped : ∀ v ∈ vs, Shaped (.map form ⟨keyName, false, keyType⟩ ⟨valueName, true, type⟩) v)
    (built : build (.map form ⟨keyName, false, keyType⟩ ⟨valueName, true, type⟩) vs = .ok c) :
    Holds (.map form ⟨keyName, false, keyType⟩ ⟨valueName, true, type⟩) vs c := by
  rw [build] at built
  obtain ⟨rows, found, built⟩ := bind_eq_ok.mp built
  obtain ⟨keyColumn, keys, rest⟩ := bind_eq_ok.mp built
  obtain ⟨valueColumn, values, rest⟩ := bind_eq_ok.mp rest
  obtain ⟨k, keyContent, rfl⟩ := buildField_eq_ok.mp keys
  obtain ⟨d, valueContent, rfl⟩ := buildField_eq_ok.mp values
  have present : ∀ e ∈ rows.flatten, e.1.isNull = false := by
    intro e member
    cases null : e.1.isNull with
    | false => rfl
    | true =>
      have some_null : (rows.flatten.any fun e => e.1.isNull) = true := List.any_eq_true.mpr ⟨e, member, null⟩
      rw [some_null] at rest
      cases rest
  have none_null : (rows.flatten.any fun e => e.1.isNull) = false := by
    rw [List.any_eq_false]
    intro e member
    simp [present e member]
  rw [none_null] at rest
  cases rest
  have places := allParts_eq_ok.mp found
  have fits := shaped_entries places shaped
  have keyColumn : Holds keyType (rows.flatten.map (·.1)) k := by
    refine holdsKeys _ _ ?_ keyContent
    intro x member
    obtain ⟨e, known, rfl⟩ := List.mem_map.mp member
    exact (fits e known).1
  have valueColumn : Holds type (rows.flatten.map (·.2)) d := by
    refine holdsValues _ _ ?_ valueContent
    intro x member
    obtain ⟨e, known, rfl⟩ := List.mem_map.mp member
    exact (fits e known).2
  refine ⟨?_, by simp [Column.length, validity], ?_, ?_, ?_⟩
  · rw [Column.type, Column.fieldType, Column.fieldType, keyColumn.type_eq, valueColumn.type_eq]
  · intro i v here
    rw [Column.isNull, getD_validity here, Bool.not_not]
  · intro i v here
    obtain ⟨parts, known, from_v⟩ := get_of_forall₂ places here
    rw [narrow?, Column.cell, getD_validity here]
    cases null : v.isNull with
    | true =>
      rw [unlessNull, null]
      rfl
    | false =>
      have narrowed : (parts.mapM fun (e : Value × Value) => do
          some (← narrowField? ⟨keyName, false, keyType⟩ e.1, ← narrowField? ⟨valueName, true, type⟩ e.2)) = some _ :=
        @mapM_parts _ _ _ (fun j => (k.cell j, d.cell j)) _ _ _ (partsOf_flatten known) fun j e found => by
          have key : narrowField? ⟨keyName, false, keyType⟩ e.1 = some (k.cell j) := by
            rw [narrowField?, present e (List.mem_of_getElem? found)]
            exact keyColumn.cells j e.1 (by rw [List.getElem?_map, found]; rfl)
          have value : narrowField? ⟨valueName, true, type⟩ e.2 = some (d.cell j) := by
            rw [narrowField?_nullable]
            exact valueColumn.cells j e.2 (by rw [List.getElem?_map, found]; rfl)
          rw [key, value]
          rfl
      simp only [unlessNull, null, Bool.false_eq_true, if_false, from_v, Option.bind_some, narrowed, Option.map_some]
      rfl
  · refine ⟨?_, ?_, ⟨?_, keyColumn.formed⟩, by simp, valueColumn.formed⟩
    · simp only [validity, List.length_map, places.length_eq, keyColumn.length_eq]
      exact offsets_offsetsFrom rows
    · simp only [valueColumn.length_eq, keyColumn.length_eq, List.length_map]
    · intro _
      rw [Column.hasNull, List.any_eq_false]
      intro j inside
      rw [List.mem_range, keyColumn.length_eq, List.length_map] at inside
      have known : (rows.flatten.map (·.1))[j]? = some rows.flatten[j].1 := by
        rw [List.getElem?_map, List.getElem?_eq_getElem inside]
        rfl
      rw [keyColumn.nulls j _ known, present _ (List.getElem_mem inside)]
      simp

/-- What is built for a type shows the values that it was built from. -/
theorem holds_build {holds : WordType → Prop} {type : DataType} (target : Target holds type) :
    ∀ vs c, (∀ v ∈ vs, Shaped type v) → build type vs = .ok c → Holds type vs c := by
  induction target with
  | @word w _ =>
    intro vs c _ built
    rw [build] at built
    obtain ⟨ps, found, built⟩ := bind_eq_ok.mp built
    obtain ⟨_, _, built⟩ := bind_eq_ok.mp built
    cases built
    exact holds_word found
  | float64 =>
    intro vs c _ built
    rw [build] at built
    obtain ⟨ps, found, rfl⟩ := map_eq_ok.mp built
    refine @holds_leaf _ _ _ .float _ _ _ found (fun v => by rw [narrow?]) rfl rfl (fun _ => rfl) ?_ trivial
    intro i p here _
    rw [Column.cell, List.getD_eq_getElem?_getD, here]
    rfl
  | boolean =>
    intro vs c _ built
    rw [build] at built
    obtain ⟨ps, found, rfl⟩ := map_eq_ok.mp built
    refine @holds_leaf _ _ _ .bool _ _ _ found (fun v => by rw [narrow?]) rfl rfl (fun _ => rfl) ?_ trivial
    intro i p here _
    rw [Column.cell, List.getD_eq_getElem?_getD, here]
    rfl
  | binary =>
    intro vs c _ built
    rw [build] at built
    obtain ⟨ps, found, rfl⟩ := map_eq_ok.mp built
    refine @holds_leaf _ _ _ .binary _ _ _ found (fun v => by rw [narrow?]) rfl rfl (fun _ => rfl) ?_ trivial
    intro i p here _
    rw [Column.cell, List.getD_eq_getElem?_getD, here]
    rfl
  | utf8 =>
    intro vs c _ built
    rw [build] at built
    obtain ⟨ps, found, rfl⟩ := map_eq_ok.mp built
    refine @holds_leaf _ _ _ .text _ _ _ found (fun v => by rw [narrow?]) rfl rfl (fun _ => rfl) ?_ trivial
    intro i p here _
    rw [Column.cell, List.getD_eq_getElem?_getD, here]
    rfl
  | struct nullable _ ih => exact fun vs c => holds_struct nullable ih
  | list _ ih => exact fun vs c => holds_list ih
  | map _ _ ihKeys ihValues => exact fun vs c => holds_map ihKeys ihValues

end RowStream.Columnar

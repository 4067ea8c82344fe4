import RowStream.Proofs.Building

/-! # What can be built

A column is built wherever each value has a place in the type. -/
namespace RowStream.Columnar

def Placeable (type : DataType) (vs : List Value) : Prop := ∀ v ∈ vs, ∃ cell, narrow? type v = some cell

theorem unlessNull_eq_some {v : Value} {found : Option Cell} {cell : Cell} (h : unlessNull v found = some cell) :
    v.isNull = true ∨ v.isNull = false ∧ found = some cell := by
  unfold unlessNull at h
  split at h
  · exact .inl ‹_›
  · rename_i filled
    exact .inr ⟨by simpa using filled, h⟩

theorem narrow?_null {holds : WordType → Prop} {type : DataType} (target : Target holds type) :
    narrow? type .null = some .null := by
  cases target <;> rfl

theorem places_isOk {α : Type} {type : DataType} {leaf? : Value → Option α} {wrap : α → Cell} {vs : List Value}
    (narrow : ∀ v, narrow? type v = unlessNull v ((leaf? v).map wrap))
    (narrows : ∀ v ∈ vs, ∃ cell, narrow? type v = some cell) : ∃ ps, places type leaf? vs = .ok ps := by
  refine mapM_isOk ?_
  intro v member
  obtain ⟨cell, narrowed⟩ := narrows v member
  rw [narrow] at narrowed
  rcases unlessNull_eq_some narrowed with null | ⟨filled, found⟩
  · exact ⟨none, by rw [null, if_pos rfl]⟩
  · obtain ⟨a, known, _⟩ := Option.map_eq_some_iff.mp found
    exact ⟨some a, by simp [filled, known]⟩

theorem allParts_isOk {α : Type} {type : DataType} {parts? : Value → Option (List α)} {vs : List Value}
    (h : ∀ v ∈ vs, ∃ parts, parts? v = some parts) : ∃ rows, allParts type parts? vs = .ok rows := by
  refine mapM_isOk ?_
  intro v member
  obtain ⟨parts, known⟩ := h v member
  exact ⟨parts, by rw [known]⟩

theorem buildField_isOk {f : Field DataType} {vs : List Value} (h : ∃ c, build f.content vs = .ok c) :
    ∃ column, buildField f vs = .ok column := by
  obtain ⟨c, built⟩ := h
  exact ⟨_, buildField_eq_ok.mpr ⟨c, built, rfl⟩⟩

theorem narrowField?_eq_some {f : Field DataType} {v : Value} {cell : Cell} (h : narrowField? f v = some cell) :
    (f.nullable = false → v.isNull = false) ∧ narrow? f.content v = some cell := by
  obtain ⟨name, nullable, type⟩ := f
  rw [narrowField?] at h
  split at h
  · cases h
  · rename_i fits
    refine ⟨?_, h⟩
    rintro rfl
    simpa using fits

theorem narrowFields?_cons_eq_some {f : Field DataType} {fs : List (Field DataType)} {parts : List (String × Value)}
    {cells : List Cell} (h : narrowFields? (f :: fs) parts = some cells) :
    ∃ p ps cell rest, parts = p :: ps ∧ narrowField? f p.2 = some cell ∧ narrowFields? fs ps = some rest := by
  cases parts with
  | nil => simp [narrowFields?] at h
  | cons p ps =>
    rw [narrowFields?] at h
    split at h
    · obtain ⟨cell, first, h⟩ := Option.bind_eq_some_iff.mp h
      obtain ⟨rest, later, _⟩ := Option.bind_eq_some_iff.mp h
      exact ⟨p, ps, cell, rest, rfl, first, later⟩
    · cases h

theorem buildFields_isOk {holds : WordType → Prop} {fields : List (Field DataType)} {index : Nat}
    {rows : List (List Value)} (targets : ∀ f ∈ fields, Target holds f.content)
    (builds : ∀ f ∈ fields, ∀ vs, Placeable f.content vs → ∃ c, build f.content vs = .ok c)
    (narrows : ∀ row ∈ rows, row = [] ∨ ∃ (parts : List (String × Value)) (cells : List Cell),
      row = parts.map (·.2) ∧ narrowFields? fields (parts.drop index) = some cells) :
    ∃ columns, buildFields fields index rows = .ok columns := by
  induction fields generalizing index with
  | nil => exact ⟨[], rfl⟩
  | cons f fs ih =>
    obtain ⟨column, first⟩ : ∃ column, buildField f (rows.map fun row => row.getD index .null) = .ok column := by
      refine buildField_isOk (builds f List.mem_cons_self _ ?_)
      intro v member
      obtain ⟨row, known, rfl⟩ := List.mem_map.mp member
      rcases narrows row known with rfl | ⟨parts, cells, rfl, narrowed⟩
      · exact ⟨.null, narrow?_null (targets f List.mem_cons_self)⟩
      · obtain ⟨p, ps, cell, _, dropped, here, _⟩ := narrowFields?_cons_eq_some narrowed
        have found : parts[index]? = some p := by
          rw [← Nat.add_zero index, ← List.getElem?_drop, dropped]
          rfl
        rw [List.getD_eq_getElem?_getD, List.getElem?_map, found]
        exact ⟨cell, (narrowField?_eq_some here).2⟩
    obtain ⟨rest, later⟩ := @ih (index + 1) (fun g member => targets g (List.mem_cons_of_mem f member))
      (fun g member => builds g (List.mem_cons_of_mem f member)) (by
        intro row known
        rcases narrows row known with rfl | ⟨parts, cells, rfl, narrowed⟩
        · exact .inl rfl
        · obtain ⟨p, ps, _, rest, dropped, _, others⟩ := narrowFields?_cons_eq_some narrowed
          refine .inr ⟨parts, rest, rfl, ?_⟩
          rwa [← List.drop_drop, dropped])
    exact ⟨column :: rest, by rw [buildFields, first, later]; rfl⟩

theorem of_mapM_eq_some {α β : Type} {f : α → Option β} {xs : List α} {ys : List β} (h : xs.mapM f = some ys)
    {x : α} (member : x ∈ xs) : ∃ y, f x = some y := by
  obtain ⟨i, here⟩ := List.mem_iff_getElem?.mp member
  obtain ⟨y, _, found⟩ := get_of_forall₂ (mapM_eq_some.mp h) here
  exact ⟨y, found⟩

theorem placed_struct {fields : List (Field DataType)} {v : Value}
    (h : ∃ cell, narrow? (.struct fields) v = some cell) :
    v = .null ∨ ∃ parts cells, v = .object parts ∧ narrowFields? fields parts = some cells := by
  obtain ⟨cell, narrowed⟩ := h
  rw [narrow?] at narrowed
  rcases unlessNull_eq_some narrowed with null | ⟨_, found⟩
  · exact .inl ((Value.isNull_iff v).mp null)
  obtain ⟨parts, object, found⟩ := Option.bind_eq_some_iff.mp found
  obtain ⟨cells, found, _⟩ := Option.map_eq_some_iff.mp found
  cases v with
  | object fields =>
    obtain rfl : fields = parts := by simpa [objectFields?] using object
    exact .inr ⟨fields, cells, rfl, found⟩
  | _ => simp [objectFields?] at object

theorem placed_list {name : String} {type : DataType} {v : Value}
    (h : ∃ cell, narrow? (.list false ⟨name, true, type⟩) v = some cell) :
    ∃ parts, arrayParts? v = some parts ∧ ∀ x ∈ parts, ∃ cell, narrow? type x = some cell := by
  obtain ⟨cell, narrowed⟩ := h
  rw [narrow?] at narrowed
  rcases unlessNull_eq_some narrowed with null | ⟨_, found⟩
  · rw [(Value.isNull_iff v).mp null]
    exact ⟨[], rfl, by simp⟩
  obtain ⟨parts, array, found⟩ := Option.bind_eq_some_iff.mp found
  obtain ⟨cells, found, _⟩ := Option.map_eq_some_iff.mp found
  refine ⟨parts, array, ?_⟩
  intro x inside
  simpa using of_mapM_eq_some found inside

theorem placed_map {form : EntriesForm} {keyName valueName : String} {key type : DataType} {v : Value}
    (h : ∃ cell, narrow? (.map form ⟨keyName, false, key⟩ ⟨valueName, true, type⟩) v = some cell) :
    ∃ parts, mapParts? v = some parts ∧ ∀ e ∈ parts, e.1.isNull = false ∧
      (∃ cell, narrow? key e.1 = some cell) ∧ ∃ cell, narrow? type e.2 = some cell := by
  obtain ⟨cell, narrowed⟩ := h
  rw [narrow?] at narrowed
  rcases unlessNull_eq_some narrowed with null | ⟨_, found⟩
  · rw [(Value.isNull_iff v).mp null]
    exact ⟨[], rfl, by simp⟩
  obtain ⟨parts, map, found⟩ := Option.bind_eq_some_iff.mp found
  obtain ⟨cells, found, _⟩ := Option.map_eq_some_iff.mp found
  refine ⟨parts, map, ?_⟩
  intro e inside
  obtain ⟨pair, found⟩ := of_mapM_eq_some found inside
  obtain ⟨keyCell, first, found⟩ := Option.bind_eq_some_iff.mp found
  obtain ⟨valueCell, second, _⟩ := Option.bind_eq_some_iff.mp found
  obtain ⟨present, first⟩ := narrowField?_eq_some first
  exact ⟨present rfl, ⟨keyCell, first⟩, ⟨valueCell, (narrowField?_eq_some second).2⟩⟩

theorem struct_isOk {holds : WordType → Prop} {fields : List (Field DataType)}
    (targets : ∀ f ∈ fields, Target holds f.content)
    (built : ∀ f ∈ fields, ∀ vs, Placeable f.content vs → ∃ c, build f.content vs = .ok c) {vs : List Value}
    (narrows : Placeable (.struct fields) vs) : ∃ c, build (.struct fields) vs = .ok c := by
  have objects := fun v member => placed_struct (narrows v member)
  obtain ⟨rows, found⟩ : ∃ rows, allParts (.struct fields) objectParts? vs = .ok rows := by
    refine allParts_isOk ?_
    intro v member
    rcases objects v member with rfl | ⟨parts, _, rfl, _⟩
    · exact ⟨[], rfl⟩
    · exact ⟨parts.map (·.2), rfl⟩
  obtain ⟨columns, children⟩ : ∃ columns, buildFields fields 0 rows = .ok columns := by
    refine buildFields_isOk targets built ?_
    intro row member
    obtain ⟨i, here⟩ := List.mem_iff_getElem?.mp member
    obtain ⟨v, known, from_v⟩ := get_of_forall₂ (allParts_eq_ok.mp found).flip here
    rcases objects v (List.mem_of_getElem? known) with rfl | ⟨parts, cells, rfl, narrowed⟩
    · exact .inl (by simpa [objectParts?] using from_v.symm)
    · exact .inr ⟨parts, cells, by simpa [objectParts?] using from_v.symm, narrowed⟩
  refine ⟨.struct (validity vs) columns, ?_⟩
  rw [build, found]
  simp only [bind, Except.bind, children]

theorem list_isOk {name : String} {type : DataType}
    (built : ∀ vs, Placeable type vs → ∃ c, build type vs = .ok c) {vs : List Value}
    (narrows : Placeable (.list false ⟨name, true, type⟩) vs) :
    ∃ c, build (.list false ⟨name, true, type⟩) vs = .ok c := by
  have arrays := fun v member => placed_list (narrows v member)
  obtain ⟨rows, found⟩ : ∃ rows, allParts (.list false ⟨name, true, type⟩) arrayParts? vs = .ok rows :=
    allParts_isOk fun v member => (arrays v member).imp fun _ h => h.1
  obtain ⟨column, items⟩ : ∃ column, buildField ⟨name, true, type⟩ rows.flatten = .ok column := by
    refine buildField_isOk (built _ ?_)
    intro x member
    obtain ⟨v, known, parts, from_v, inside⟩ := mem_flatten_of_forall₂ (allParts_eq_ok.mp found) member
    obtain ⟨others, same, each⟩ := arrays v known
    obtain rfl : others = parts := Option.some.inj (same.symm.trans from_v)
    exact each x inside
  refine ⟨.list false (validity vs) (offsetsFrom 0 (rows.map List.length)) column, ?_⟩
  rw [build, found]
  simp only [bind, Except.bind, items]

theorem map_isOk {form : EntriesForm} {keyName valueName : String} {key type : DataType}
    (builtKeys : ∀ vs, Placeable key vs → ∃ c, build key vs = .ok c)
    (builtValues : ∀ vs, Placeable type vs → ∃ c, build type vs = .ok c) {vs : List Value}
    (narrows : Placeable (.map form ⟨keyName, false, key⟩ ⟨valueName, true, type⟩) vs) :
    ∃ c, build (.map form ⟨keyName, false, key⟩ ⟨valueName, true, type⟩) vs = .ok c := by
  have maps := fun v member => placed_map (narrows v member)
  obtain ⟨rows, found⟩ :
      ∃ rows, allParts (.map form ⟨keyName, false, key⟩ ⟨valueName, true, type⟩) mapParts? vs = .ok rows :=
    allParts_isOk fun v member => (maps v member).imp fun _ h => h.1
  have entries : ∀ e ∈ rows.flatten, e.1.isNull = false ∧
      (∃ cell, narrow? key e.1 = some cell) ∧ ∃ cell, narrow? type e.2 = some cell := by
    intro e member
    obtain ⟨v, known, parts, from_v, inside⟩ := mem_flatten_of_forall₂ (allParts_eq_ok.mp found) member
    obtain ⟨others, same, each⟩ := maps v known
    obtain rfl : others = parts := Option.some.inj (same.symm.trans from_v)
    exact each e inside
  obtain ⟨keyColumn, keys⟩ : ∃ column, buildField ⟨keyName, false, key⟩ (rows.flatten.map (·.1)) = .ok column := by
    refine buildField_isOk (builtKeys _ ?_)
    intro x member
    obtain ⟨e, known, rfl⟩ := List.mem_map.mp member
    exact (entries e known).2.1
  obtain ⟨valueColumn, values⟩ :
      ∃ column, buildField ⟨valueName, true, type⟩ (rows.flatten.map (·.2)) = .ok column := by
    refine buildField_isOk (builtValues _ ?_)
    intro x member
    obtain ⟨e, known, rfl⟩ := List.mem_map.mp member
    exact (entries e known).2.2
  have none_null : (rows.flatten.any fun e => e.1.isNull) = false := by
    rw [List.any_eq_false]
    intro e member
    simp [(entries e member).1]
  refine ⟨.map form (validity vs) (offsetsFrom 0 (rows.map List.length)) keyColumn valueColumn, ?_⟩
  rw [build, found]
  simp only [bind, Except.bind, keys, values, none_null]
  rfl

/-- Values that have a place in a type can be built. -/
theorem build_isOk {type : DataType} (target : Target (fun w => checkWord w = .ok ()) type) :
    ∀ vs, Placeable type vs → ∃ c, build type vs = .ok c := by
  induction target with
  | @word w fits =>
    intro vs narrows
    obtain ⟨ps, found⟩ := places_isOk (fun v => by rw [narrow?]) narrows
    exact ⟨_, by rw [build, found, fits]; rfl⟩
  | float64 =>
    intro vs narrows
    obtain ⟨ps, found⟩ := places_isOk (fun v => by rw [narrow?]) narrows
    exact ⟨_, by rw [build, found]; rfl⟩
  | boolean =>
    intro vs narrows
    obtain ⟨ps, found⟩ := places_isOk (fun v => by rw [narrow?]) narrows
    exact ⟨_, by rw [build, found]; rfl⟩
  | binary =>
    intro vs narrows
    obtain ⟨ps, found⟩ := places_isOk (fun v => by rw [narrow?]) narrows
    exact ⟨_, by rw [build, found]; rfl⟩
  | utf8 =>
    intro vs narrows
    obtain ⟨ps, found⟩ := places_isOk (fun v => by rw [narrow?]) narrows
    exact ⟨_, by rw [build, found]; rfl⟩
  | struct _ targets ih => exact fun vs narrows => struct_isOk targets ih narrows
  | list _ ih => exact fun vs narrows => list_isOk ih narrows
  | map _ _ ihKeys ihValues => exact fun vs narrows => map_isOk ihKeys ihValues narrows

end RowStream.Columnar

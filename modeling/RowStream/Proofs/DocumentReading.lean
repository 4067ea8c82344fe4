import RowStream.Proofs.DocumentForms

/-! # Documents as they are read

A document that is spelled out is read as itself, unless one of its objects begins with the name of numbers. -/
namespace RowStream
open RowStream.Decode RowStream.Json

namespace Json

inductive Fits : Nat → Json → Prop
  | null {depth} : Fits depth .null
  | bool {depth} (b) : Fits depth (.bool b)
  | number {depth} (text) : Fits depth (.number text)
  | string {depth} (text) : Fits depth (.string text)
  | array {depth items} (inside : ∀ j ∈ items, Fits depth j) : Fits (depth + 1) (.array items)
  | object {depth members} (inside : ∀ m ∈ members, Fits depth m.2) : Fits (depth + 1) (.object members)

/-- Somewhere an object begins with the name of numbers. -/
inductive Source.Mistaken : Source → Prop
  | here {members} (first : namesNumber members = true) : Mistaken (.object members)
  | item {items source} (member : source ∈ items) (inside : Mistaken source) : Mistaken (.array items)
  | member {members m} (member : m ∈ members) (inside : Mistaken m.2) : Mistaken (.object members)

namespace Source
variable {items : List Json} {members : List (String × Json)}

theorem mistaken_array (h : (ofJson (.array items)).Mistaken) : ∃ j ∈ items, (ofJson j).Mistaken := by
  rw [ofJson, ofJsonItems_eq] at h
  cases h with
  | item member inside =>
    obtain ⟨j, here, rfl⟩ := List.mem_map.mp member
    exact ⟨j, here, inside⟩

theorem mistaken_object (h : (ofJson (.object members)).Mistaken) :
    namesNumber (ofJsonMembers members) = true ∨ ∃ m ∈ members, (ofJson m.2).Mistaken := by
  rw [ofJson] at h
  cases h with
  | here first => exact .inl first
  | member member inside =>
    rw [ofJsonMembers_eq] at member
    obtain ⟨m, here, rfl⟩ := List.mem_map.mp member
    exact .inr ⟨m, here, inside⟩

theorem Mistaken.of_item {j : Json} (member : j ∈ items) (h : (ofJson j).Mistaken) :
    (ofJson (.array items)).Mistaken := by
  rw [ofJson, ofJsonItems_eq]
  exact .item (List.mem_map_of_mem member) h

theorem Mistaken.of_member {m : String × Json} (member : m ∈ members) (h : (ofJson m.2).Mistaken) :
    (ofJson (.object members)).Mistaken := by
  rw [ofJson, ofJsonMembers_eq]
  exact .member (List.mem_map_of_mem member) h

end Source

theorem setMember_of_not_mem {name : String} {value : Json} {members : List (String × Json)}
    (new : name ∉ members.map (·.1)) : setMember name value members = members ++ [(name, value)] := by
  induction members with
  | nil => rfl
  | cons m members ih =>
    rw [List.map_cons, List.mem_cons, not_or] at new
    rw [setMember, if_neg (Ne.symm new.1), ih new.2, List.cons_append]

theorem mergeMembers_of_nodup {members : List (String × Json)} (distinct : (members.map (·.1)).Nodup) :
    mergeMembers members = members := by
  have onto : ∀ done : List (String × Json), ((done ++ members).map (·.1)).Nodup →
      members.foldl (fun done m => setMember m.1 m.2 done) done = done ++ members := by
    induction members with
    | nil => exact fun done _ => (List.append_nil done).symm
    | cons m members ih =>
      intro done all
      have new : m.1 ∉ done.map (·.1) := by
        rw [List.map_append, List.map_cons, List.nodup_append] at all
        exact fun old => all.2.2 _ old _ List.mem_cons_self rfl
      have split : done ++ m :: members = done ++ [m] ++ members := by simp
      rw [List.foldl_cons, setMember_of_not_mem new, split]
      rw [List.map_cons, List.nodup_cons] at distinct
      exact ih distinct.2 (done ++ [m]) (split ▸ all)
  exact onto [] distinct

variable {depth : Nat}

theorem ofItems?_eq (items : List Source) : ofItems? depth items = items.mapM (ofSource? depth) := by
  induction items with
  | nil => rfl
  | cons item items ih =>
    rw [ofItems?, ih, List.mapM_cons]
    cases ofSource? depth item with
    | none => rfl
    | some j => cases items.mapM (ofSource? depth) <;> rfl

def ofMember? (depth : Nat) (m : Option String × Source) : Option (String × Json) := do
  some (← m.1, ← ofSource? depth m.2)

theorem ofMembers?_eq (members : List (Option String × Source)) :
    ofMembers? depth members = members.mapM (ofMember? depth) := by
  induction members with
  | nil => rfl
  | cons m members ih =>
    obtain ⟨name, value⟩ := m
    rw [List.mapM_cons, ← ih]
    cases name with
    | none => rfl
    | some name =>
      simp only [ofMembers?, ofMember?]
      cases ofSource? depth value with
      | none => rfl
      | some j => cases ofMembers? depth members <;> rfl

theorem ofItems?_ofJson {items js : List Json} :
    ofItems? depth (Source.ofJsonItems items) = some js ↔
      List.Forall₂ (fun item j => ofSource? depth (Source.ofJson item) = some j) items js := by
  rw [ofItems?_eq, Source.ofJsonItems_eq, mapM_eq_some, List.forall₂_map_left_iff]

theorem ofMembers?_ofJson {members ms : List (String × Json)} :
    ofMembers? depth (Source.ofJsonMembers members) = some ms ↔
      List.Forall₂ (fun m m' => m'.1 = m.1 ∧ ofSource? depth (Source.ofJson m.2) = some m'.2) members ms := by
  have one : ∀ m m' : String × Json, ofMember? depth (some m.1, Source.ofJson m.2) = some m' ↔
      m'.1 = m.1 ∧ ofSource? depth (Source.ofJson m.2) = some m'.2 := by
    rintro ⟨name, value⟩ ⟨name', value'⟩
    rw [ofMember?]
    cases ofSource? depth (Source.ofJson value) with
    | none => simp
    | some j =>
      simp [eq_comm]
  rw [ofMembers?_eq, Source.ofJsonMembers_eq, mapM_eq_some, List.forall₂_map_left_iff]
  simp only [one]

def ReadAs (depth : Nat) (members ms : List (String × Json)) : Prop :=
  List.Forall₂ (fun m m' => m'.1 = m.1 ∧ ofSource? depth (Source.ofJson m.2) = some m'.2) members ms

theorem ReadAs.names {members ms : List (String × Json)} (h : ReadAs depth members ms) :
    ms.map (·.1) = members.map (·.1) := by
  rw [ReadAs] at h
  induction h with
  | nil => rfl
  | cons head _ ih => rw [List.map_cons, List.map_cons, head.1, ih]

theorem ofSource?_array {items : List Json}
    (inside : ∀ j ∈ items, ofSource? depth (Source.ofJson j) = some j) :
    ofSource? (depth + 1) (Source.ofJson (.array items)) = some (.array items) := by
  have all : ofItems? depth (Source.ofJsonItems items) = some items := by
    rw [ofItems?_ofJson, List.forall₂_same]
    exact inside
  rw [Source.ofJson, ofSource?, all]
  rfl

theorem ofSource?_object {members : List (String × Json)} (distinct : (members.map (·.1)).Nodup)
    (sound : ¬(Source.ofJson (.object members)).Mistaken)
    (inside : ∀ m ∈ members, ofSource? depth (Source.ofJson m.2) = some m.2) :
    ofSource? (depth + 1) (Source.ofJson (.object members)) = some (.object members) := by
  have named : namesNumber (Source.ofJsonMembers members) = false := by
    rw [Bool.eq_false_iff]
    exact fun first => sound (.here first)
  have all : ofMembers? depth (Source.ofJsonMembers members) = some members := by
    rw [ofMembers?_ofJson, List.forall₂_same]
    exact fun m member => ⟨rfl, inside m member⟩
  rw [Source.ofJson, ofSource?, named, all, Option.map_some, mergeMembers_of_nodup distinct]
  rfl

/-- What any array is read as. -/
theorem array_of_ofSource? {items : List Json} {j : Json}
    (h : ofSource? depth (Source.ofJson (.array items)) = some j) :
    ∃ inner js, j = .array js ∧
      List.Forall₂ (fun item j => ofSource? inner (Source.ofJson item) = some j) items js := by
  cases depth with
  | zero => cases h
  | succ inner =>
    rw [Source.ofJson, ofSource?, Option.map_eq_some_iff] at h
    obtain ⟨js, inside, rfl⟩ := h
    exact ⟨inner, js, rfl, ofItems?_ofJson.mp inside⟩

/-- What any object is read as: a number, or an object whose members are read on their own. -/
theorem object_of_ofSource? {members : List (String × Json)} {j : Json} (distinct : (members.map (·.1)).Nodup)
    (h : ofSource? depth (Source.ofJson (.object members)) = some j) :
    (∃ text, j = .number text) ∨
      namesNumber (Source.ofJsonMembers members) = false ∧ ∃ inner ms, j = .object ms ∧ ReadAs inner members ms := by
  cases depth with
  | zero => cases h
  | succ inner =>
    rw [Source.ofJson, ofSource?] at h
    cases first : namesNumber (Source.ofJsonMembers members) with
    | true =>
      rw [first, if_pos rfl] at h
      rw [namedNumber?.eq_def] at h
      split at h
      · obtain ⟨text, -, rfl⟩ := Option.map_eq_some_iff.mp h
        exact .inl ⟨text, rfl⟩
      · cases h
    | false =>
      rw [first, if_neg Bool.false_ne_true, Option.map_eq_some_iff] at h
      obtain ⟨ms, inside, rfl⟩ := h
      have readAs : ReadAs inner members ms := ofMembers?_ofJson.mp inside
      rw [← readAs.names] at distinct
      exact .inr ⟨rfl, inner, ms, by rw [mergeMembers_of_nodup distinct], readAs⟩

end Json

namespace Decode
variable {t u : ColumnType} {o : DecodeOptions} {e : Error}

theorem value_number (structured : t.isStructured = true) (text : String) :
    ∃ e, value o t (JsonCursor.node (.number text)) = .error e := by
  rw [value_eq, structured]
  cases kind : t.kind with
  | object =>
    cases fields : t.fields with
    | nil => simp [ColumnType.isStructured, kind, fields] at structured
    | cons u us => exact ⟨_, rfl⟩
  | array => exact ⟨_, rfl⟩
  | map => exact ⟨_, rfl⟩
  | _ => simp [ColumnType.isStructured, kind] at structured

theorem value_object_isError {ms : List (String × Json)} (structured : t.isStructured = true) (kind : t.kind = .object)
    (distinct : (ms.map (·.1)).Nodup) {k : Nat} (declared : t.fields[k]? = some u) {m : String × Json} (member : m ∈ ms)
    (name : m.1 = u.name) (refused : value o u (JsonCursor.node m.2) = .error e) :
    ∃ e', value o t (JsonCursor.node (.object ms)) = .error e' := by
  apply isError_of_forall_ne
  intro v decoded
  rw [value_eq, structured] at decoded
  simp only [kind] at decoded
  obtain ⟨fs, decoded, -⟩ := map_eq_ok.mp decoded
  obtain ⟨child, w, found, decoded⟩ := fieldValues_eq_ok decoded declared
  have here : Cursor.field (JsonCursor.node (.object ms)) (0 + k) u = .ok (JsonCursor.node m.2) := by
    show Except.ok (((JsonCursor.memberOf ms u.name).map JsonCursor.node).getD .missing) = _
    rw [← name, JsonCursor.memberOf_eq distinct member]
    rfl
  obtain rfl : JsonCursor.node m.2 = child := Except.ok.inj (here.symm.trans found)
  rw [refused] at decoded
  cases decoded

theorem value_array_isError {js : List Json} (structured : t.isStructured = true) (kind : t.kind = .array) {j : Json}
    (member : j ∈ js) (refused : value o (t.part 0) (JsonCursor.node j) = .error e) :
    ∃ e', value o t (JsonCursor.node (.array js)) = .error e' := by
  have elements : Cursor.elements (JsonCursor.node (.array js)) = .ok (js.map JsonCursor.node) := rfl
  obtain ⟨e', items⟩ := mapM_isError (List.mem_map_of_mem member) refused
  refine ⟨e', ?_⟩
  rw [value_eq, structured]
  simp only [kind, elements]
  show (((js.map JsonCursor.node).mapM (value o (t.part 0))).bind _) = _
  rw [items]
  rfl

theorem value_map_isError {ms : List (String × Json)} (kind : t.kind = .map) {m : String × Json} (member : m ∈ ms)
    (refused : value o (t.part 1) (JsonCursor.node m.2) = .error e) :
    ∃ e', value o t (JsonCursor.node (.object ms)) = .error e' := by
  have structured : t.isStructured = true := by simp [ColumnType.isStructured, kind]
  have entries : Cursor.entries (JsonCursor.node (.object ms)) =
      .ok (ms.map fun m => (JsonCursor.key m.1, JsonCursor.node m.2)) := rfl
  obtain ⟨e', pair⟩ :
      ∃ e', pairValue o (t.part 0) (t.part 1) (JsonCursor.key m.1, JsonCursor.node m.2) = .error e' := by
    rw [pairValue]
    cases value o (t.part 0) (JsonCursor.key m.1) with
    | error e' => exact ⟨e', rfl⟩
    | ok v =>
      rw [refused]
      exact ⟨e, rfl⟩
  obtain ⟨e', all⟩ := mapM_isError
    (List.mem_map_of_mem (f := fun m : String × Json => (JsonCursor.key m.1, JsonCursor.node m.2)) member) pair
  refine ⟨e', ?_⟩
  rw [value_eq, structured]
  simp only [kind, entries]
  show (((ms.map _).mapM (pairValue o (t.part 0) (t.part 1))).bind _) = _
  rw [all]
  rfl

end Decode

namespace Spells
variable {t : ColumnType} {l : Logical} {j : Json} {o : DecodeOptions} {depth : Nat}

/-- A document without an object that begins with the name of numbers is read as itself. -/
theorem read (h : Spells t l j) (regular : t.Everywhere ColumnType.Regular) (fits : j.Fits depth)
    (sound : ¬(Source.ofJson j).Mistaken) : ofSource? depth (Source.ofJson j) = some j := by
  induction h generalizing depth with
  | null | string | number | bool => rfl
  | @object t ls js members kind structured filled length order _ ih =>
    cases fits with
    | object fits =>
      have distinct := distinct_of_order order length (regular.here.names kind)
      refine ofSource?_object distinct sound ?_
      intro m member
      obtain ⟨k, u, l, declared, -, known, here⟩ := place_of_order order filled member
      exact ih k u l m.2 declared known here
        (regular.field (List.mem_of_getElem? declared)) (fits m member) fun bad => sound (.of_member member bad)
  | @array t ls js kind structured length _ ih =>
    cases fits with
    | array fits =>
      refine ofSource?_array ?_
      intro j member
      obtain ⟨k, l, known, here⟩ := place_of_mem length member
      exact ih k l j known here (regular.part ColumnType.regular_plainText 0)
        (fits j member) fun bad => sound (.of_item member bad)
  | @map t ls members kind length distinct _ _ ih =>
    cases fits with
    | object fits =>
      refine ofSource?_object distinct sound ?_
      intro m member
      obtain ⟨k, l, known, here⟩ := place_of_mem length member
      exact ih k l m known here (regular.part ColumnType.regular_plainText 1)
        (fits m member) fun bad => sound (.of_member member bad)

/-- A document with an object that begins with the name of numbers is never decoded: where it is read at all,
a number stands in the place of the object. -/
theorem mistaken (h : Spells t l j) (regular : t.Everywhere ColumnType.Regular) (bad : (Source.ofJson j).Mistaken)
    {found : Json} (read : ofSource? depth (Source.ofJson j) = some found) :
    ∃ e, value o t (JsonCursor.node found) = .error e := by
  induction h generalizing depth found with
  | null | string | number | bool => cases bad
  | @object t ls js members kind structured filled length order _ ih =>
    have distinct := distinct_of_order order length (regular.here.names kind)
    rcases object_of_ofSource? distinct read with ⟨text, rfl⟩ | ⟨named, inner, ms, rfl, readAs⟩
    · exact value_number structured text
    rcases Source.mistaken_object bad with first | ⟨m, member, inside⟩
    · rw [named] at first
      cases first
    obtain ⟨k, u, l, declared, name, known, here⟩ := place_of_order order filled member
    obtain ⟨i, place⟩ := List.mem_iff_getElem?.mp member
    obtain ⟨m', place', name', read'⟩ := get_of_forall₂ readAs place
    obtain ⟨e, refused⟩ := ih k u l m.2 declared known here (regular.field (List.mem_of_getElem? declared)) inside read'
    rw [← readAs.names] at distinct
    exact value_object_isError structured kind distinct declared (List.mem_of_getElem? place') (name'.trans name.symm)
      refused
  | @array t ls js kind structured length _ ih =>
    obtain ⟨inner, found, rfl, readAs⟩ := array_of_ofSource? read
    obtain ⟨j, member, inside⟩ := Source.mistaken_array bad
    obtain ⟨k, l, known, here⟩ := place_of_mem length member
    obtain ⟨j', here', read'⟩ := get_of_forall₂ readAs here
    obtain ⟨e, refused⟩ := ih k l j known here (regular.part ColumnType.regular_plainText 0) inside read'
    exact value_array_isError structured kind (List.mem_of_getElem? here') refused
  | @map t ls members kind length distinct _ _ ih =>
    rcases object_of_ofSource? distinct read with ⟨text, rfl⟩ | ⟨named, inner, ms, rfl, readAs⟩
    · exact value_number (by simp [ColumnType.isStructured, kind]) text
    rcases Source.mistaken_object bad with first | ⟨m, member, inside⟩
    · rw [named] at first
      cases first
    obtain ⟨k, l, known, here⟩ := place_of_mem length member
    obtain ⟨m', here', -, read'⟩ := get_of_forall₂ readAs here
    obtain ⟨e, refused⟩ := ih k l m known here (regular.part ColumnType.regular_plainText 1) inside read'
    exact value_map_isError kind (List.mem_of_getElem? here') refused

end Spells
end RowStream

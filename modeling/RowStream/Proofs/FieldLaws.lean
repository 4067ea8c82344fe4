import RowStream.Proofs.NestedTypes
import RowStream.Decode.Document
import RowStream.Decode.ColumnRows

/-! # Laws of fields

Which part of an object a field of its type takes. Documents go by names only; columns go by exact names and
then by places, so that a field can take a part of another name. -/
namespace RowStream
open RowStream.Text RowStream.Decode

section
variable {κ : Type}

/-- The part with exactly this name, else the first with this name in another case, else the position of
what is missing. -/
inductive ByName (missing : κ) (parts : List (String × κ)) (name : String) : κ → Prop
  | exact {p} (here : IsFirst (fun q => q.1 = name) parts p) : ByName missing parts name p.2
  | folded {p} (others : ∀ q ∈ parts, q.1 ≠ name) (here : IsFirst (fun q => sameIgnoringCase q.1 name = true) parts p) :
      ByName missing parts name p.2
  | absent (nowhere : ∀ q ∈ parts, sameIgnoringCase q.1 name = false) : ByName missing parts name missing

/-- The part with exactly this name, else the part at this place, whatever its name. -/
inductive ByNameOrPlace (parts : List (String × κ)) (index : Nat) (name : String) : κ → Prop
  | exact {p} (here : IsFirst (fun q => q.1 = name) parts p) : ByNameOrPlace parts index name p.2
  | placed {p} (others : ∀ q ∈ parts, q.1 ≠ name) (here : parts[index]? = some p) : ByNameOrPlace parts index name p.2

variable [Cursor κ]

/-- The value of a position, with all of its parts: an object takes each field from the part that a law chooses
among its named parts, and what has no parts follows a rule for leaves. -/
inductive Follows (parts? : κ → Option (List (String × κ))) (law : List (String × κ) → Nat → String → κ → Prop)
    (leaf : κ → ColumnType → Value → Prop) : ColumnType → κ → Value → Prop
  | null {t c} (null : Cursor.isNull c = true) : Follows parts? law leaf t c .null
  | leaf {t c v} (filled : Cursor.isNull c = false) (plain : t.isStructured = false) (here : leaf c t v) :
      Follows parts? law leaf t c v
  | object {t c parts vs} (child : Nat → κ) (filled : Cursor.isNull c = false) (structured : t.isStructured = true)
      (kind : t.kind = .object) (payload : parts? c = some parts) (length : vs.length = t.fields.length)
      (chosen : ∀ (k : Nat) u, t.fields[k]? = some u → law parts k u.name (child k))
      (fields : ∀ (k : Nat) u v, t.fields[k]? = some u → vs[k]? = some v → Follows parts? law leaf u (child k) v) :
      Follows parts? law leaf t c (.object ((t.fields.map (·.name)).zip vs))
  | array {t c cs vs} (filled : Cursor.isNull c = false) (structured : t.isStructured = true) (kind : t.kind = .array)
      (elements : Cursor.elements c = .ok cs) (length : vs.length = cs.length)
      (items : ∀ (k : Nat) d v, cs[k]? = some d → vs[k]? = some v → Follows parts? law leaf (t.part 0) d v) :
      Follows parts? law leaf t c (.array vs)
  | map {t c es vs} (filled : Cursor.isNull c = false) (kind : t.kind = .map) (entries : Cursor.entries c = .ok es)
      (length : vs.length = es.length)
      (keys : ∀ (k : Nat) e v, es[k]? = some e → vs[k]? = some v → Follows parts? law leaf (t.part 0) e.1 v.1)
      (values : ∀ (k : Nat) e v, es[k]? = some e → vs[k]? = some v → Follows parts? law leaf (t.part 1) e.2 v.2) :
      Follows parts? law leaf t c (.map vs)

end

namespace Decode
variable {κ : Type} [Cursor κ] {o : DecodeOptions} {t : ColumnType} {c : κ} {v : Value}

def Leaf (o : DecodeOptions) (c : κ) (t : ColumnType) (v : Value) : Prop := Cursor.leaf c t o = .ok v

theorem fieldValues_iff {index : Nat} {ts : List ColumnType} {fs : List (String × Value)} :
    fieldValues o c index ts = .ok fs ↔
      ∃ (child : Nat → κ) (vs : List Value), fs = (ts.map (·.name)).zip vs ∧ vs.length = ts.length ∧
        (∀ (k : Nat) u, ts[k]? = some u → Cursor.field c (index + k) u = .ok (child k)) ∧
        ∀ (k : Nat) u v, ts[k]? = some u → vs[k]? = some v → value o u (child k) = .ok v := by
  induction ts generalizing index fs with
  | nil =>
    rw [fieldValues, Except.ok.injEq]
    constructor
    · rintro rfl
      exact ⟨fun _ => c, [], rfl, rfl, by simp, by simp⟩
    · rintro ⟨child, vs, rfl, -⟩
      rfl
  | cons t ts ih =>
    rw [fieldValues]
    constructor
    · intro h
      obtain ⟨first, found, h⟩ := bind_eq_ok.mp h
      obtain ⟨v, here, h⟩ := bind_eq_ok.mp h
      obtain ⟨rest, later, h⟩ := bind_eq_ok.mp h
      cases h
      obtain ⟨child, vs, rfl, length, chosen, values⟩ := ih.mp later
      refine ⟨fun k => k.casesOn first child, v :: vs, rfl, by simpa using length, ?_, ?_⟩
      · intro k u declared
        cases k with
        | zero =>
          obtain rfl : t = u := by simpa using declared
          exact found
        | succ k =>
          have here := chosen k u (by simpa using declared)
          rwa [Nat.add_assoc, Nat.add_comm 1 k] at here
      · intro k u w declared filled
        cases k with
        | zero =>
          obtain rfl : t = u := by simpa using declared
          obtain rfl : v = w := by simpa using filled
          exact here
        | succ k => exact values k u w (by simpa using declared) (by simpa using filled)
    · rintro ⟨child, vs, rfl, length, chosen, values⟩
      obtain ⟨v, vs, rfl⟩ := List.exists_cons_of_length_eq_add_one length
      refine bind_eq_ok.mpr ⟨child 0, chosen 0 t rfl, bind_eq_ok.mpr ⟨v, values 0 t v rfl rfl, ?_⟩⟩
      refine bind_eq_ok.mpr ⟨(ts.map (·.name)).zip vs, ?_, rfl⟩
      refine ih.mpr ⟨fun k => child (k + 1), vs, rfl, Nat.succ.inj length, ?_, ?_⟩
      · intro k u declared
        rw [Nat.add_assoc, Nat.add_comm 1 k]
        exact chosen (k + 1) u (by simpa using declared)
      · intro k u w declared filled
        exact values (k + 1) u w (by simpa using declared) (by simpa using filled)

theorem pairValue_eq_ok {key type : ColumnType} {e : κ × κ} {p : Value × Value} :
    pairValue o key type e = .ok p ↔ value o key e.1 = .ok p.1 ∧ value o type e.2 = .ok p.2 := by
  rw [pairValue]
  constructor
  · intro h
    obtain ⟨k, first, h⟩ := bind_eq_ok.mp h
    obtain ⟨v, second, h⟩ := bind_eq_ok.mp h
    cases h
    exact ⟨first, second⟩
  · rintro ⟨first, second⟩
    exact bind_eq_ok.mpr ⟨p.1, first, bind_eq_ok.mpr ⟨p.2, second, rfl⟩⟩

theorem value_of_null (null : Cursor.isNull c = true) : value o t c = .ok v ↔ v = .null := by
  rw [value_eq, null, if_pos rfl, Except.ok.injEq, eq_comm]

section
variable (filled : Cursor.isNull c = false)
include filled

theorem value_of_leaf (plain : t.isStructured = false) : value o t c = .ok v ↔ Leaf o c t v := by
  rw [value_eq, filled, plain]
  rfl

theorem value_of_object (structured : t.isStructured = true) (kind : t.kind = .object) :
    value o t c = .ok v ↔ ∃ fs, fieldValues o c 0 t.fields = .ok fs ∧ v = .object fs := by
  rw [value_eq, filled, structured]
  simp only [kind, Bool.false_eq_true, if_false, Bool.not_true, map_eq_ok, @eq_comm _ v]

theorem value_of_array (structured : t.isStructured = true) (kind : t.kind = .array) :
    value o t c = .ok v ↔ ∃ cs vs, Cursor.elements c = .ok cs ∧
      List.Forall₂ (fun d w => value o (t.part 0) d = .ok w) cs vs ∧ v = .array vs := by
  rw [value_eq, filled, structured]
  simp only [kind, Bool.false_eq_true, if_false, Bool.not_true]
  constructor
  · intro h
    obtain ⟨cs, elements, h⟩ := bind_eq_ok.mp h
    obtain ⟨vs, items, h⟩ := bind_eq_ok.mp h
    cases h
    exact ⟨cs, vs, elements, mapM_eq_ok.mp items, rfl⟩
  · rintro ⟨cs, vs, elements, items, rfl⟩
    exact bind_eq_ok.mpr ⟨cs, elements, bind_eq_ok.mpr ⟨vs, mapM_eq_ok.mpr items, rfl⟩⟩

theorem value_of_map (kind : t.kind = .map) :
    value o t c = .ok v ↔ ∃ es vs, Cursor.entries c = .ok es ∧
      List.Forall₂ (fun e w => value o (t.part 0) e.1 = .ok w.1 ∧ value o (t.part 1) e.2 = .ok w.2) es vs ∧
      v = .map vs := by
  have structured : t.isStructured = true := by simp [ColumnType.isStructured, kind]
  rw [value_eq, filled, structured]
  simp only [kind, Bool.false_eq_true, if_false, Bool.not_true]
  constructor
  · intro h
    obtain ⟨es, entries, h⟩ := bind_eq_ok.mp h
    obtain ⟨vs, pairs, h⟩ := bind_eq_ok.mp h
    cases h
    exact ⟨es, vs, entries, (mapM_eq_ok.mp pairs).imp fun _ _ => pairValue_eq_ok.mp, rfl⟩
  · rintro ⟨es, vs, entries, pairs, rfl⟩
    refine bind_eq_ok.mpr ⟨es, entries, bind_eq_ok.mpr ⟨vs, mapM_eq_ok.mpr ?_, rfl⟩⟩
    exact pairs.imp fun _ _ => pairValue_eq_ok.mpr

end
end Decode

section
variable {κ : Type} [Cursor κ] {o : DecodeOptions} {parts? : κ → Option (List (String × κ))}
  {law : List (String × κ) → Nat → String → κ → Prop}

section
variable (found : ∀ (c : κ) k u d, Cursor.field c k u = .ok d ↔ ∃ parts, parts? c = some parts ∧ law parts k u.name d)
include found

theorem follows_of_value {t : ColumnType} {c : κ} {v : Value} (h : value o t c = .ok v) :
    Follows parts? law (Leaf o) t c v := by
  induction t using ColumnType.parts_induction generalizing c v with
  | step t fields part =>
    by_cases null : Cursor.isNull c = true
    · rw [value_of_null null] at h
      subst h
      exact .null null
    rw [Bool.not_eq_true] at null
    by_cases structured : t.isStructured = true
    · cases kind : t.kind with
      | object =>
        obtain ⟨fs, decoded, rfl⟩ := (value_of_object null structured kind).mp h
        obtain ⟨child, vs, rfl, length, chosen, values⟩ := fieldValues_iff.mp decoded
        simp only [Nat.zero_add, found] at chosen
        obtain ⟨u, us, declared⟩ : ∃ u us, t.fields = u :: us := by
          refine List.exists_cons_of_ne_nil fun none => ?_
          simp [ColumnType.isStructured, kind, none] at structured
        obtain ⟨parts, payload, -⟩ := chosen 0 u (by rw [declared]; rfl)
        refine .object child null structured kind payload length ?_ ?_
        · intro k u declared
          obtain ⟨parts', payload', chosen⟩ := chosen k u declared
          obtain rfl : parts = parts' := Option.some.inj (payload.symm.trans payload')
          exact chosen
        · exact fun k u v declared here => fields u (List.mem_of_getElem? declared) (values k u v declared here)
      | array =>
        obtain ⟨cs, vs, elements, items, rfl⟩ := (value_of_array null structured kind).mp h
        refine .array null structured kind elements items.length_eq.symm ?_
        intro k d v there here
        obtain ⟨w, same, decoded⟩ := get_of_forall₂ items there
        obtain rfl : w = v := Option.some.inj (same.symm.trans here)
        exact part structured 0 decoded
      | map =>
        obtain ⟨es, vs, entries, pairs, rfl⟩ := (value_of_map null kind).mp h
        have inside : ∀ (k : Nat) e w, es[k]? = some e → vs[k]? = some w →
            value o (t.part 0) e.1 = .ok w.1 ∧ value o (t.part 1) e.2 = .ok w.2 := by
          intro k e w there here
          obtain ⟨w', same, decoded⟩ := get_of_forall₂ pairs there
          obtain rfl : w' = w := Option.some.inj (same.symm.trans here)
          exact decoded
        refine .map null kind entries pairs.length_eq.symm ?_ ?_
        · exact fun k e w there here => part structured 0 (inside k e w there here).1
        · exact fun k e w there here => part structured 1 (inside k e w there here).2
      | _ => simp [ColumnType.isStructured, kind] at structured
    · rw [Bool.not_eq_true] at structured
      exact .leaf null structured ((value_of_leaf null structured).mp h)

theorem value_of_follows {t : ColumnType} {c : κ} {v : Value} (h : Follows parts? law (Leaf o) t c v) :
    value o t c = .ok v := by
  induction h with
  | null null => exact (value_of_null null).mpr rfl
  | leaf filled plain here => exact (value_of_leaf filled plain).mpr here
  | @object t c parts vs child filled structured kind payload length chosen _ ih =>
    refine (value_of_object filled structured kind).mpr ⟨_, fieldValues_iff.mpr ?_, rfl⟩
    refine ⟨child, vs, rfl, length, ?_, ih⟩
    intro k u declared
    rw [Nat.zero_add, found]
    exact ⟨parts, payload, chosen k u declared⟩
  | @array t c cs vs filled structured kind elements length _ ih =>
    exact (value_of_array filled structured kind).mpr ⟨cs, vs, elements, forall₂_of_get length ih, rfl⟩
  | @map t c es vs filled kind entries length _ _ keys values =>
    refine (value_of_map filled kind).mpr ⟨es, vs, entries, forall₂_of_get length ?_, rfl⟩
    exact fun k e v there here => ⟨keys k e v there here, values k e v there here⟩

/-- The walk follows a law if fields are found by it. -/
theorem value_iff_follows (t : ColumnType) (c : κ) (v : Value) :
    value o t c = .ok v ↔ Follows parts? law (Leaf o) t c v :=
  ⟨follows_of_value found, value_of_follows found⟩

end
end

section
variable {κ : Type} {missing d : κ} {parts : List (String × κ)} {index : Nat} {name : String}

theorem exact_iff {p : String × κ} : parts.find? (fun q => q.1 == name) = some p ↔
    IsFirst (fun q => q.1 = name) parts p :=
  find?_eq_some_iff_isFirst fun _ => beq_iff_eq

theorem folded_iff {p : String × κ} : parts.find? (fun q => sameIgnoringCase q.1 name) = some p ↔
    IsFirst (fun q => sameIgnoringCase q.1 name = true) parts p :=
  find?_eq_some_iff_isFirst fun _ => Iff.rfl

theorem others_iff : parts.find? (fun q => q.1 == name) = none ↔ ∀ q ∈ parts, q.1 ≠ name := by
  simp only [List.find?_eq_none, beq_iff_eq, ne_eq]

def named (missing : κ) (parts : List (String × κ)) (name : String) : κ :=
  (((parts.find? fun q => q.1 == name).or (parts.find? fun q => sameIgnoringCase q.1 name)).map (·.2)).getD missing

theorem byName_iff : ByName missing parts name d ↔ d = named missing parts name := by
  constructor
  · intro h
    cases h with
    | exact here =>
      rw [named, exact_iff.mpr here]
      rfl
    | folded others here =>
      rw [named, others_iff.mpr others, Option.none_or, folded_iff.mpr here]
      rfl
    | absent nowhere =>
      have others : ∀ q ∈ parts, q.1 ≠ name := by
        rintro q member rfl
        have differs := nowhere q member
        rw [sameIgnoringCase_self] at differs
        cases differs
      have nothing : parts.find? (fun q => sameIgnoringCase q.1 name) = none := by
        simpa only [List.find?_eq_none, Bool.not_eq_true] using nowhere
      rw [named, others_iff.mpr others, Option.none_or, nothing]
      rfl
  · rintro rfl
    rw [named]
    cases exact : parts.find? (fun q => q.1 == name) with
    | some p => exact .exact (exact_iff.mp exact)
    | none =>
      rw [Option.none_or]
      cases folded : parts.find? (fun q => sameIgnoringCase q.1 name) with
      | some p => exact .folded (others_iff.mp exact) (folded_iff.mp folded)
      | none => exact .absent (by simpa only [List.find?_eq_none, Bool.not_eq_true] using folded)

theorem byNameOrPlace_iff : ByNameOrPlace parts index name d ↔
    ∃ p, ((parts.find? fun q => q.1 == name).or parts[index]?) = some p ∧ p.2 = d := by
  constructor
  · intro h
    cases h with
    | exact here => exact ⟨_, by rw [exact_iff.mpr here, Option.some_or], rfl⟩
    | placed others here => exact ⟨_, by rw [others_iff.mpr others, Option.none_or, here], rfl⟩
  · rintro ⟨p, chosen, rfl⟩
    cases exact : parts.find? (fun q => q.1 == name) with
    | some q =>
      rw [exact, Option.some_or] at chosen
      cases chosen
      exact .exact (exact_iff.mp exact)
    | none =>
      rw [exact, Option.none_or] at chosen
      exact .placed (others_iff.mp exact) chosen

end

def JsonCursor.parts? : JsonCursor → Option (List (String × JsonCursor))
  | .node (.object members) => some (members.map fun m => (m.1, .node m.2))
  | _ => none

def ColumnCursor.parts? (c : ColumnCursor) : Option (List (String × ColumnCursor)) :=
  match c.column with
  | .struct _ fields => some (fields.map fun f => (f.name, ⟨f.content, c.row⟩))
  | _ => none

theorem named_members (members : List (String × Json)) (name : String) :
    named JsonCursor.missing (members.map fun m => (m.1, JsonCursor.node m.2)) name =
      ((JsonCursor.memberOf members name).map JsonCursor.node).getD .missing := by
  rw [named, JsonCursor.memberOf, Json.member?, List.find?_map, List.find?_map]
  simp only [Function.comp_def]
  cases members.find? (fun m => m.1 == name) <;> cases members.find? (fun m => sameIgnoringCase m.1 name) <;> rfl

theorem JsonCursor.field_eq_ok (c : JsonCursor) (index : Nat) (u : ColumnType) (d : JsonCursor) :
    Cursor.field c index u = .ok d ↔ ∃ parts, c.parts? = some parts ∧ ByName .missing parts u.name d := by
  cases c with
  | node j =>
    cases j with
    | object members =>
      have looked : Cursor.field (JsonCursor.node (.object members)) index u =
          .ok (((memberOf members u.name).map node).getD .missing) := rfl
      rw [looked, Except.ok.injEq, eq_comm, ← named_members, ← byName_iff]
      simp only [parts?, Option.some.injEq, exists_eq_left']
    | _ =>
      constructor
      · intro h
        cases h
      · rintro ⟨_, ⟨⟩, _⟩
  | _ =>
    constructor
    · intro h
      cases h
    · rintro ⟨_, ⟨⟩, _⟩

theorem fieldOf?_parts (fields : List (Columnar.Field Columnar.Column)) (index row : Nat) (name : String) :
    ((fields.map fun f => (f.name, (⟨f.content, row⟩ : ColumnCursor))).find? fun q => q.1 == name).or
        (fields.map fun f => (f.name, (⟨f.content, row⟩ : ColumnCursor)))[index]? =
      (ColumnCursor.fieldOf? fields index name).map fun f => (f.name, ⟨f.content, row⟩) := by
  rw [ColumnCursor.fieldOf?, List.find?_map, List.getElem?_map]
  simp only [Function.comp_def]
  cases fields.find? (fun f => f.name == name) <;> rfl

theorem ColumnCursor.field_eq_ok (c : ColumnCursor) (index : Nat) (u : ColumnType) (d : ColumnCursor) :
    Cursor.field c index u = .ok d ↔ ∃ parts, c.parts? = some parts ∧ ByNameOrPlace parts index u.name d := by
  obtain ⟨column, row⟩ := c
  cases column with
  | struct valid fields =>
    have looked : Cursor.field (⟨.struct valid fields, row⟩ : ColumnCursor) index u = .ok d ↔
        ∃ f, fieldOf? fields index u.name = some f ∧ ⟨f.content, row⟩ = d := by
      show ColumnCursor.field _ _ _ = _ ↔ _
      simp only [field]
      cases fieldOf? fields index u.name <;> simp
    rw [looked]
    simp only [parts?, Option.some.injEq, exists_eq_left', byNameOrPlace_iff, fieldOf?_parts]
    cases fieldOf? fields index u.name <;> simp
  | _ =>
    constructor
    · intro h
      cases h
    · rintro ⟨_, ⟨⟩, _⟩

/-- Where a part has the name of the field, names and places make no difference. -/
theorem byName_iff_byNameOrPlace {κ : Type} {missing d : κ} {parts : List (String × κ)} {index : Nat} {name : String}
    (known : name ∈ parts.map (·.1)) : ByName missing parts name d ↔ ByNameOrPlace parts index name d := by
  obtain ⟨q, member, same⟩ := List.mem_map.mp known
  have not_others : ¬∀ q ∈ parts, q.1 ≠ name := fun others => others q member same
  constructor
  · intro h
    cases h with
    | exact here => exact .exact here
    | folded others _ => exact absurd others not_others
    | absent nowhere =>
      have differs := nowhere q member
      rw [same, sameIgnoringCase_self] at differs
      cases differs
  · intro h
    cases h with
    | exact here => exact .exact here
    | placed others _ => exact absurd others not_others

/-- A struct is refused if a field has neither a name nor a place in it. -/
theorem value_isError_of_no_place {o : DecodeOptions} {t u : ColumnType} {c : ColumnCursor}
    {parts : List (String × ColumnCursor)} {k : Nat} (filled : c.isNull = false) (structured : t.isStructured = true)
    (kind : t.kind = .object) (payload : c.parts? = some parts) (declared : t.fields[k]? = some u)
    (others : ∀ q ∈ parts, q.1 ≠ u.name) (short : parts.length ≤ k) : ∃ e, value o t c = .error e := by
  apply isError_of_forall_ne
  intro v h
  obtain ⟨fs, decoded, -⟩ := (value_of_object filled structured kind).mp h
  obtain ⟨child, _, found, -⟩ := fieldValues_eq_ok decoded declared
  rw [Nat.zero_add] at found
  obtain ⟨parts', payload', chosen⟩ := (c.field_eq_ok k u child).mp found
  obtain rfl : parts = parts' := Option.some.inj (payload.symm.trans payload')
  cases chosen with
  | exact here => exact others _ here.mem here.holds
  | placed _ here =>
    rw [List.getElem?_eq_none short] at here
    cases here

/-- Objects of documents have their fields by name, at every depth: the member with exactly the name, else
the first with the name in another case, else null. Structs go by exact names and then by places, and where
neither leads to a part the struct is refused; both laws agree on fields whose names are there. -/
theorem fields_follow_laws (o : DecodeOptions) :
    (∀ (t : ColumnType) (c : JsonCursor) (v : Value), value o t c = .ok v ↔
      Follows JsonCursor.parts? (fun parts _ name => ByName .missing parts name) (Leaf o) t c v) ∧
    (∀ (t : ColumnType) (v : Value), value o t JsonCursor.missing = .ok v ↔ v = .null) ∧
    (∀ (t : ColumnType) (c : ColumnCursor) (v : Value), value o t c = .ok v ↔
      Follows ColumnCursor.parts? ByNameOrPlace (Leaf o) t c v) ∧
    (∀ (t u : ColumnType) (c : ColumnCursor) (parts : List (String × ColumnCursor)) (k : Nat), c.isNull = false →
      t.isStructured = true → t.kind = .object → c.parts? = some parts → t.fields[k]? = some u →
      (∀ q ∈ parts, q.1 ≠ u.name) → parts.length ≤ k → ∃ e, value o t c = .error e) ∧
    ∀ (κ : Type) (missing d : κ) (parts : List (String × κ)) (index : Nat) (name : String),
      name ∈ parts.map (·.1) → (ByName missing parts name d ↔ ByNameOrPlace parts index name d) := by
  refine ⟨?_, ?_, ?_, ?_, ?_⟩
  · exact value_iff_follows JsonCursor.field_eq_ok
  · exact fun t v => value_of_null rfl
  · exact value_iff_follows ColumnCursor.field_eq_ok
  · intro t u c parts k filled structured kind payload declared others short
    exact value_isError_of_no_place filled structured kind payload declared others short
  · exact fun κ missing d parts index name known => byName_iff_byNameOrPlace known

/-- A city and a point, whose names differ in case only. -/
def townType : ColumnType :=
  { name := "P", kind := .object, fields := [{ name := "city", kind := .text },
    { name := "at", kind := .object, fields := [{ name := "x", kind := .fixed }, { name := "X", kind := .fixed },
      { name := "y", kind := .fixed }] }] }

def town : JsonCursor :=
  .node (.object [("at", .object [("X", .number "2"), ("x", .number "1")]), ("CITY", .string "Oslo")])

def townValue : Value :=
  .object [("city", .text "Oslo"), ("at", .object [("x", .int 1), ("X", .int 2), ("y", .null)])]

/-- A struct of one column, for the second of two fields. -/
def lone : ColumnCursor := ⟨.struct [true] [⟨"b", true, .word .int64 [⟨true, 7⟩]⟩], 0⟩

def pairType (first second : String) : ColumnType :=
  { name := "O", kind := .object, fields := [{ name := first, kind := .fixed }, { name := second, kind := .fixed }] }

theorem fields_follow_laws_town : value {} townType town = .ok townValue ∧
    Follows JsonCursor.parts? (fun parts _ name => ByName .missing parts name) (Leaf {}) townType town townValue ∧
    ∃ e, value {} (pairType "b" "c") lone = .error e := by
  have decoded : value {} townType town = .ok townValue := rfl
  obtain ⟨documents, -, -, refused, -⟩ := fields_follow_laws {}
  refine ⟨decoded, (documents townType town townValue).mp decoded, ?_⟩
  exact refused (pairType "b" "c") { name := "c", kind := .fixed } lone [("b", ⟨.word .int64 [⟨true, 7⟩], 0⟩)] 1
    rfl rfl rfl rfl rfl (by decide) (by decide)

/-- The column of one field fills another one that the struct does not have, where a document gives null;
without a column at its place the absent field is an error. -/
theorem absent_field_takes_sibling :
    value {} (pairType "a" "b") lone = .ok (.object [("a", .int 7), ("b", .int 7)]) ∧
    value {} (pairType "a" "b") (JsonCursor.node (.object [("b", .number "7")])) =
      .ok (.object [("a", .null), ("b", .int 7)]) ∧
    value {} (pairType "b" "c") lone = .error (.decode "struct has no field 'c'") :=
  ⟨rfl, rfl, rfl⟩

end RowStream

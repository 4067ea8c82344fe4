import RowStream.Proofs.FieldLaws
import RowStream.Scan

/-! # Look-ups in decoded objects

A look-up takes the first field that has the name in any case. Where names differ in case only it can
give the value of another field than the one with exactly that name. -/
namespace RowStream
open RowStream.Text RowStream.Decode

/-- A payload whose parts have exactly the names of the fields, in any order. -/
structure Complete {κ : Type} [Cursor κ] (parts? : κ → Option (List (String × κ))) (t : ColumnType) (c : κ)
    (parts : List (String × κ)) : Prop where
  filled : Cursor.isNull c = false
  payload : parts? c = some parts
  names : (parts.map (·.1)).Perm (t.fields.map (·.name))

/-- All ways to look up a name in an object lead to this value. -/
structure Gives (v : Value) (name : String) (x : Value) : Prop where
  field : v.field? name = some x
  converted : ∃ fields, v = .object fields ∧ ∀ (α : Type) (s : Scanner α),
    Scanner.field fields name s = (s.scan x).mapError (·.within ("field " ++ name))

theorem gives_of_findField {fields : List (String × Value)} {name : String} {x : Value}
    (found : Value.findField fields name = some x) : Gives (.object fields) name x := by
  refine ⟨found, fields, rfl, ?_⟩
  intro α s
  rw [Scanner.field, found, Option.getD_some]
  cases s.scan x <;> rfl

def FirstOfName (t : ColumnType) (name : String) : ColumnType → Prop :=
  IsFirst (fun w => sameIgnoringCase w.name name = true) t.fields

/-- The field that a look-up stops at, and what its part decodes to. -/
structure Reached {κ : Type} [Cursor κ] (o : DecodeOptions) (t u : ColumnType) (parts : List (String × κ)) (v : Value)
    (w : ColumnType) (d : κ) (x : Value) : Prop where
  first : FirstOfName t u.name w
  /-- It is the field itself unless another field has its name in another case. -/
  own : (∀ w' ∈ t.fields, sameIgnoringCase w'.name u.name = true → w' = u) → w = u
  part : (w.name, d) ∈ parts
  only : ∀ d', (w.name, d') ∈ parts → d' = d
  decoded : value o w d = .ok x
  given : Gives v u.name x

theorem findField_zip {ts : List ColumnType} {vs : List Value} (length : vs.length = ts.length) {name : String}
    {w : ColumnType} (first : ts.find? (fun w => sameIgnoringCase w.name name) = some w) :
    ∃ (k : Nat) (x : Value), ts[k]? = some w ∧ vs[k]? = some x ∧
      Value.findField ((ts.map (·.name)).zip vs) name = some x := by
  induction ts generalizing vs with
  | nil => cases first
  | cons t ts ih =>
    obtain ⟨v, vs, rfl⟩ := List.exists_cons_of_length_eq_add_one length
    cases here : sameIgnoringCase t.name name with
    | true =>
      simp only [List.find?_cons, here, Option.some.injEq] at first
      subst first
      refine ⟨0, v, rfl, rfl, ?_⟩
      simp only [Value.findField, List.map_cons, List.zip_cons_cons, List.find?_cons, here, Option.map_some]
    | false =>
      simp only [List.find?_cons, here] at first
      obtain ⟨k, x, declared, filled, found⟩ := ih (Nat.succ.inj length) first
      refine ⟨k + 1, x, by simpa using declared, by simpa using filled, ?_⟩
      simpa only [Value.findField, List.map_cons, List.zip_cons_cons, List.find?_cons, here] using found

/-- A part with the name of a field is the one that the field takes. -/
theorem mem_of_byNameOrPlace {κ : Type} {parts : List (String × κ)} {index : Nat} {name : String} {d : κ}
    (known : name ∈ parts.map (·.1)) (h : ByNameOrPlace parts index name d) : (name, d) ∈ parts := by
  cases h with
  | @exact p here =>
    have same : p.1 = name := here.holds
    exact same ▸ here.mem
  | placed others _ =>
    obtain ⟨q, member, same⟩ := List.mem_map.mp known
    exact absurd same (others q member)

theorem part_unique {κ : Type} {parts : List (String × κ)} (distinct : (parts.map (·.1)).Nodup) {name : String}
    {d d' : κ} (here : (name, d) ∈ parts) (there : (name, d') ∈ parts) : d' = d := by
  have found := find?_name distinct here
  rw [find?_name distinct there, Option.some.injEq, Prod.mk.injEq] at found
  exact found.2

section
variable {κ : Type} [Cursor κ] {o : DecodeOptions} {t u : ColumnType} {c : κ} {v : Value}
  {parts? : κ → Option (List (String × κ))} {law : List (String × κ) → Nat → String → κ → Prop}
  {parts : List (String × κ)}

/-- In whatever format: a look-up reaches a field, and the value of that field's own part. -/
theorem exists_reached
    (found : ∀ (c : κ) k u d, Cursor.field c k u = .ok d ↔ ∃ parts, parts? c = some parts ∧ law parts k u.name d)
    (named : ∀ parts k name d, name ∈ parts.map (·.1) → law parts k name d → (name, d) ∈ parts)
    (kind : t.kind = .object) (structured : t.isStructured = true) (distinct : (t.fields.map (·.name)).Nodup)
    (complete : Complete parts? t c parts) (decoded : value o t c = .ok v) (member : u ∈ t.fields) :
    ∃ w d x, Reached o t u parts v w d x := by
  obtain ⟨fs, filled, rfl⟩ := (value_of_object complete.filled structured kind).mp decoded
  obtain ⟨child, vs, rfl, length, chosen, values⟩ := fieldValues_iff.mp filled
  obtain ⟨w, first⟩ : ∃ w, t.fields.find? (fun w => sameIgnoringCase w.name u.name) = some w := by
    rw [← Option.isSome_iff_exists, List.find?_isSome]
    exact ⟨u, member, sameIgnoringCase_self u.name⟩
  obtain ⟨k, x, declared, filled, given⟩ := findField_zip length first
  have reached : FirstOfName t u.name w := (find?_eq_some_iff_isFirst fun _ => Iff.rfl).mp first
  have known : w.name ∈ parts.map (·.1) := complete.names.mem_iff.mpr (List.mem_map_of_mem reached.mem)
  obtain ⟨parts', payload, chosen⟩ := (found _ _ _ _).mp (chosen k w declared)
  obtain rfl : parts = parts' := Option.some.inj (complete.payload.symm.trans payload)
  have part := named parts _ _ _ known chosen
  refine ⟨w, child k, x, reached, ?_, part, ?_, values k w x declared filled, gives_of_findField given⟩
  · exact fun only => only w reached.mem reached.holds
  · exact fun d' there => part_unique (complete.names.nodup_iff.mpr distinct) part there

end

/-- An object whose payload has exactly the names of its fields, in any order: a look-up by the name of a field
gives the value of the first field with this name in any case, decoded from the part of that field's own name.
So it gives the value of the field itself unless an earlier field differs from it in case only. -/
theorem lookups_reach_first {t : ColumnType} (kind : t.kind = .object) (structured : t.isStructured = true)
    (distinct : (t.fields.map (·.name)).Nodup) (o : DecodeOptions) :
    (∀ (c : JsonCursor) parts v, Complete JsonCursor.parts? t c parts → value o t c = .ok v →
      ∀ u ∈ t.fields, ∃ w d x, Reached o t u parts v w d x) ∧
    ∀ (c : ColumnCursor) parts v, Complete ColumnCursor.parts? t c parts → value o t c = .ok v →
      ∀ u ∈ t.fields, ∃ w d x, Reached o t u parts v w d x := by
  constructor
  · intro c parts v complete decoded u member
    refine exists_reached JsonCursor.field_eq_ok ?_ kind structured distinct complete decoded member
    intro parts k name d known h
    have placed : ByNameOrPlace parts k name d := (byName_iff_byNameOrPlace known).mp h
    exact mem_of_byNameOrPlace known placed
  · intro c parts v complete decoded u member
    refine exists_reached ColumnCursor.field_eq_ok ?_ kind structured distinct complete decoded member
    exact fun parts k name d known h => mem_of_byNameOrPlace known h

/-- The members in another order than the fields, with two names that differ in case only. -/
def pointType : ColumnType :=
  { name := "P", kind := .object,
    fields := [{ name := "x", kind := .fixed }, { name := "X", kind := .fixed }, { name := "y", kind := .fixed }] }

def point : JsonCursor := .node (.object [("y", .number "3"), ("X", .number "2"), ("x", .number "1")])

def pointParts : List (String × JsonCursor) :=
  [("y", .node (.number "3")), ("X", .node (.number "2")), ("x", .node (.number "1"))]

theorem lookups_reach_first_point :
    value {} pointType point = .ok (.object [("x", .int 1), ("X", .int 2), ("y", .int 3)]) ∧
    ∀ u ∈ pointType.fields, ∃ w d x,
      Reached {} pointType u pointParts (.object [("x", .int 1), ("X", .int 2), ("y", .int 3)]) w d x := by
  have decoded : value {} pointType point = .ok (.object [("x", .int 1), ("X", .int 2), ("y", .int 3)]) := rfl
  have complete : Complete JsonCursor.parts? pointType point pointParts := ⟨rfl, rfl, by decide⟩
  exact ⟨decoded, (lookups_reach_first rfl rfl (by decide) {}).1 point pointParts _ complete decoded⟩

/-- Two fields whose names differ in case only are decoded apart, and then a look-up by the name of the second
gives the value of the first. -/
theorem sibling_found_by_name :
    value {} (pairType "a" "A") (JsonCursor.node (.object [("a", .number "1"), ("A", .number "2")])) =
      .ok (.object [("a", .int 1), ("A", .int 2)]) ∧
    (Value.object [("a", .int 1), ("A", .int 2)]).field? "A" = some (.int 1) ∧
    Scanner.field [("a", .int 1), ("A", .int 2)] "A" Scanner.int64 = .ok 1 := by
  refine ⟨rfl, rfl, rfl⟩

end RowStream

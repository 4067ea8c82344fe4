import RowStream.Proofs.FieldLaws

/-! # Positions in nested values

Where a path leads in a source, there it leads in the value that the walk makes of it. A map between positions of two
sources that keeps all that the walk looks at keeps the values that it makes. -/
namespace RowStream
open RowStream.Decode

inductive PathStep
  | field (index : Nat)
  | item (index : Nat)
  | key (index : Nat)
  | entry (index : Nat)

def Value.at? : Value → List PathStep → Option Value
  | v, [] => some v
  | .object fields, .field k :: path => fields[k]?.bind fun f => f.2.at? path
  | .array items, .item k :: path => items[k]?.bind fun v => v.at? path
  | .map entries, .key k :: path => entries[k]?.bind fun e => e.1.at? path
  | .map entries, .entry k :: path => entries[k]?.bind fun e => e.2.at? path
  | _, _ :: _ => none

section
variable {κ : Type} [Cursor κ]

/-- The position of a type at the end of a path from a position of a type: an object leads to the parts that its fields
take, and nothing leads on from null. -/
inductive Located : ColumnType → κ → List PathStep → ColumnType → κ → Prop
  | here {t c} : Located t c [] t c
  | field {t c u d path t' c'} {k : Nat} (filled : Cursor.isNull c = false) (structured : t.isStructured = true)
      (kind : t.kind = .object) (declared : t.fields[k]? = some u) (found : Cursor.field c k u = .ok d)
      (rest : Located u d path t' c') : Located t c (.field k :: path) t' c'
  | item {t c cs d path t' c'} {k : Nat} (filled : Cursor.isNull c = false) (structured : t.isStructured = true)
      (kind : t.kind = .array) (elements : Cursor.elements c = .ok cs) (found : cs[k]? = some d)
      (rest : Located (t.part 0) d path t' c') : Located t c (.item k :: path) t' c'
  | key {t c es e path t' c'} {k : Nat} (filled : Cursor.isNull c = false) (kind : t.kind = .map)
      (entries : Cursor.entries c = .ok es) (found : es[k]? = some e) (rest : Located (t.part 0) e.1 path t' c') :
      Located t c (.key k :: path) t' c'
  | entry {t c es e path t' c'} {k : Nat} (filled : Cursor.isNull c = false) (kind : t.kind = .map)
      (entries : Cursor.entries c = .ok es) (found : es[k]? = some e) (rest : Located (t.part 1) e.2 path t' c') :
      Located t c (.entry k :: path) t' c'

namespace Decode
variable {o : DecodeOptions} {t t' : ColumnType} {c c' : κ} {v : Value} {path : List PathStep}

/-- A value has at the end of each path the value of the position there. -/
theorem at?_of_located (h : Located t c path t' c') (decoded : value o t c = .ok v) :
    ∃ x, v.at? path = some x ∧ value o t' c' = .ok x := by
  induction h generalizing v with
  | here => exact ⟨v, by rw [Value.at?], decoded⟩
  | @field t c u d path t' c' k filled structured kind declared found _ ih =>
    obtain ⟨fs, fields, rfl⟩ := (value_of_object filled structured kind).mp decoded
    obtain ⟨child, vs, rfl, length, chosen, values⟩ := fieldValues_iff.mp fields
    have same := chosen k u declared
    rw [Nat.zero_add, found, Except.ok.injEq] at same
    obtain ⟨inside, -⟩ := List.getElem?_eq_some_iff.mp declared
    have here := List.getElem?_eq_getElem (length ▸ inside : k < vs.length)
    have decoded := values k u _ declared here
    rw [← same] at decoded
    obtain ⟨x, reached, last⟩ := ih decoded
    have part : ((t.fields.map (·.name)).zip vs)[k]? = some (u.name, vs[k]) :=
      List.getElem?_zip_eq_some.mpr ⟨by rw [List.getElem?_map, declared, Option.map_some], here⟩
    exact ⟨x, by rw [Value.at?, part, Option.bind_some, reached], last⟩
  | @item t c cs d path t' c' k filled structured kind elements found _ ih =>
    obtain ⟨ds, vs, elements', items, rfl⟩ := (value_of_array filled structured kind).mp decoded
    obtain rfl := Except.ok.inj (elements.symm.trans elements')
    obtain ⟨w, here, decoded⟩ := get_of_forall₂ items found
    obtain ⟨x, reached, last⟩ := ih decoded
    exact ⟨x, by rw [Value.at?, here, Option.bind_some, reached], last⟩
  | @key t c es e path t' c' k filled kind entries found _ ih =>
    obtain ⟨ds, vs, entries', pairs, rfl⟩ := (value_of_map filled kind).mp decoded
    obtain rfl := Except.ok.inj (entries.symm.trans entries')
    obtain ⟨w, here, decoded, -⟩ := get_of_forall₂ pairs found
    obtain ⟨x, reached, last⟩ := ih decoded
    exact ⟨x, by rw [Value.at?, here, Option.bind_some, reached], last⟩
  | @entry t c es e path t' c' k filled kind entries found _ ih =>
    obtain ⟨ds, vs, entries', pairs, rfl⟩ := (value_of_map filled kind).mp decoded
    obtain rfl := Except.ok.inj (entries.symm.trans entries')
    obtain ⟨w, here, -, decoded⟩ := get_of_forall₂ pairs found
    obtain ⟨x, reached, last⟩ := ih decoded
    exact ⟨x, by rw [Value.at?, here, Option.bind_some, reached], last⟩

end Decode
end

namespace Decode
variable {κ κ' : Type} [Cursor κ] [Cursor κ'] {f : κ → κ'} {o : DecodeOptions}

/-- A map of positions that keeps nulls and parts, and whether and what leaves decode to. -/
structure Keeps (o : DecodeOptions) (f : κ → κ') : Prop where
  null : ∀ c, Cursor.isNull (f c) = Cursor.isNull c
  field : ∀ c k u, Cursor.field (f c) k u = (Cursor.field c k u).map f
  elements : ∀ c, Cursor.elements (f c) = (Cursor.elements c).map (List.map f)
  entries : ∀ c, Cursor.entries (f c) = (Cursor.entries c).map (List.map (Prod.map f f))
  leaf : ∀ c u v, Leaf o (f c) u v ↔ Leaf o c u v

variable {f : κ → κ'}

theorem Keeps.fieldValues_iff (h : Keeps o f) {ts : List ColumnType}
    (each : ∀ u ∈ ts, ∀ c v, value o u (f c) = .ok v ↔ value o u c = .ok v) {c : κ} {index : Nat}
    {fs : List (String × Value)} : fieldValues o (f c) index ts = .ok fs ↔ fieldValues o c index ts = .ok fs := by
  induction ts generalizing index fs with
  | nil => rw [fieldValues, fieldValues]
  | cons u ts ih =>
    have rest := @ih (fun w member => each w (List.mem_cons_of_mem u member)) (index + 1)
    rw [fieldValues, fieldValues, h.field]
    cases Cursor.field c index u with
    | error e => rfl
    | ok d =>
      show (value o u (f d)).bind _ = .ok fs ↔ (value o u d).bind _ = .ok fs
      simp only [bind_eq_ok, each u List.mem_cons_self]
      refine exists_congr fun v => and_congr_right fun _ => ?_
      show (fieldValues o (f c) _ ts).bind _ = _ ↔ (fieldValues o c _ ts).bind _ = _
      rw [bind_eq_ok, bind_eq_ok]
      exact exists_congr fun later => and_congr_left fun _ => rest

theorem Keeps.value_iff (h : Keeps o f) (t : ColumnType) (c : κ) (v : Value) :
    value o t (f c) = .ok v ↔ value o t c = .ok v := by
  induction t using ColumnType.parts_induction generalizing c v with
  | step t fields part =>
    by_cases null : Cursor.isNull c = true
    · rw [value_of_null null, value_of_null ((h.null c).trans null)]
    rw [Bool.not_eq_true] at null
    have null' := (h.null c).trans null
    by_cases structured : t.isStructured = true
    · cases kind : t.kind with
      | object =>
        rw [value_of_object null structured kind, value_of_object null' structured kind]
        simp only [h.fieldValues_iff fields]
      | array =>
        rw [value_of_array null structured kind, value_of_array null' structured kind, h.elements]
        have each := fun d w => part structured 0 d w
        constructor
        · rintro ⟨_, vs, mapped, items, rfl⟩
          obtain ⟨cs, elements, rfl⟩ := map_eq_ok.mp mapped
          exact ⟨cs, vs, elements, (List.forall₂_map_left_iff.mp items).imp fun d w => (each d w).mp, rfl⟩
        · rintro ⟨cs, vs, elements, items, rfl⟩
          refine ⟨cs.map f, vs, map_eq_ok.mpr ⟨cs, elements, rfl⟩, ?_, rfl⟩
          exact List.forall₂_map_left_iff.mpr (items.imp fun d w => (each d w).mpr)
      | map =>
        rw [value_of_map null kind, value_of_map null' kind, h.entries]
        have each := fun (e : κ × κ) (w : Value × Value) =>
          and_congr (part structured 0 e.1 w.1) (part structured 1 e.2 w.2)
        constructor
        · rintro ⟨_, vs, mapped, pairs, rfl⟩
          obtain ⟨es, entries, rfl⟩ := map_eq_ok.mp mapped
          exact ⟨es, vs, entries, (List.forall₂_map_left_iff.mp pairs).imp fun e w => (each e w).mp, rfl⟩
        · rintro ⟨es, vs, entries, pairs, rfl⟩
          refine ⟨es.map (Prod.map f f), vs, map_eq_ok.mpr ⟨es, entries, rfl⟩, ?_, rfl⟩
          exact List.forall₂_map_left_iff.mpr (pairs.imp fun e w => (each e w).mpr)
      | _ => simp [ColumnType.isStructured, kind] at structured
    · rw [Bool.not_eq_true] at structured
      rw [value_of_leaf null structured, value_of_leaf null' structured]
      exact h.leaf c t v

end Decode
end RowStream

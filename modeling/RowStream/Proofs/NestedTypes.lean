import RowStream.Proofs.Traversal
import RowStream.Columnar.Target
import RowStream.Decode.Nested

/-! # Nested types

Induction over a column type with all of its parts, and the walks over types as single equations. -/
namespace RowStream

namespace ColumnType

theorem part_cases (t : ColumnType) (index : Nat) : t.part index ∈ t.fields ∨ t.part index = plainText := by
  rw [part, List.getD_eq_getElem?_getD]
  cases found : t.fields[index]? with
  | none => exact .inr rfl
  | some u => exact .inl (List.mem_of_getElem? found)

/-- What holds of a type where it holds of its fields and, if it is structured, of its parts. -/
theorem parts_induction {motive : ColumnType → Prop}
    (step : ∀ t, (∀ u ∈ t.fields, motive u) → (t.isStructured = true → ∀ index, motive (t.part index)) → motive t)
    (t : ColumnType) : motive t := by
  have plain : motive plainText := by
    refine step plainText (fun _ member => nomatch member) ?_
    intro structured
    cases structured
  have of_fields : ∀ t, (∀ u ∈ t.fields, motive u) → motive t := by
    intro t fields
    refine step t fields ?_
    intro _ index
    rcases t.part_cases index with field | undeclared
    · exact fields _ field
    · rw [undeclared]
      exact plain
  refine @ColumnType.rec motive (fun ts => ∀ u ∈ ts, motive u) ?_ ?_ ?_ t
  · intro _ _ _ _ _ _ _ fields
    exact of_fields _ fields
  · intro u member
    cases member
  · intro t ts head tail u member
    rcases List.mem_cons.mp member with rfl | member
    · exact head
    · exact tail u member

/-- What holds of a type and of all types inside of it. -/
inductive Everywhere (holds : ColumnType → Prop) : ColumnType → Prop
  | intro {t} (here : holds t) (fields : ∀ u ∈ t.fields, Everywhere holds u) : Everywhere holds t

namespace Everywhere
variable {holds weaker : ColumnType → Prop} {t : ColumnType}

theorem here (h : Everywhere holds t) : holds t := by
  cases h with
  | intro here _ => exact here

theorem field (h : Everywhere holds t) {u : ColumnType} (member : u ∈ t.fields) : Everywhere holds u := by
  cases h with
  | intro _ fields => exact fields u member

theorem of_forall (h : ∀ t, holds t) (t : ColumnType) : Everywhere holds t := by
  induction t using parts_induction with
  | step t fields _ => exact .intro (h t) fields

theorem part (h : Everywhere holds t) (plain : holds plainText) (index : Nat) : Everywhere holds (t.part index) := by
  rcases t.part_cases index with field | undeclared
  · exact h.field field
  · rw [undeclared]
    exact .intro plain (fun _ member => nomatch member)

theorem mono (h : Everywhere holds t) (weaken : ∀ u, holds u → weaker u) : Everywhere weaker t := by
  induction h with
  | intro here _ ih => exact .intro (weaken _ here) ih

end Everywhere
end ColumnType

namespace Columnar

theorem targetFields_eq (o : BatchOptions) (ts : List ColumnType) :
    targetFields o ts = ts.map fun t => ⟨t.name, true, targetType o t⟩ := by
  induction ts with
  | nil => rfl
  | cons t ts ih => rw [targetFields, ih, List.map_cons]

theorem targetPart_eq (o : BatchOptions) (ts : List ColumnType) (index : Nat) :
    targetPart o ts index = targetType o (ts.getD index .plainText) := by
  induction ts generalizing index with
  | nil => rfl
  | cons t ts ih =>
    cases index with
    | zero => rfl
    | succ index => exact ih index

def scalarTarget (o : BatchOptions) (t : ColumnType) : DataType :=
  match t.kind with
  | .fixed => fixedTarget o t.precision t.scale
  | .real => .float64
  | .boolean => .boolean
  | .date => .word .date32
  | .time => .word (.time64 .nanosecond)
  | .timestampNtz => .word (.timestamp o.timestampUnit none)
  | .timestampLtz | .timestampTz => .word (.timestamp o.timestampUnit utcZone)
  | .binary => .binary false
  | .object | .array | .map | .text | .variant => .utf8 false

theorem targetType_eq (o : BatchOptions) (t : ColumnType) :
    targetType o t =
      if !t.isStructured then scalarTarget o t
      else match t.kind with
        | .array => .list false ⟨"item", true, targetType o (t.part 0)⟩
        | .map => .map {} ⟨"key", false, targetType o (t.part 0)⟩ ⟨"value", true, targetType o (t.part 1)⟩
        | _ => .struct (t.fields.map fun u => ⟨u.name, true, targetType o u⟩) := by
  obtain ⟨name, kind, precision, scale, length, nullable, fields⟩ := t
  cases kind with
  | object => cases fields <;> simp [targetType, ColumnType.isStructured, scalarTarget, targetFields_eq]
  | array =>
    cases fields <;> simp [targetType, ColumnType.isStructured, scalarTarget, targetPart_eq, ColumnType.part]
  | map => simp [targetType, ColumnType.isStructured, targetPart_eq, ColumnType.part]
  | _ => rfl

end Columnar

namespace Decode
variable {κ : Type} [Cursor κ]

def pairValue (o : DecodeOptions) (key type : ColumnType) (e : κ × κ) : Result (Value × Value) := do
  let k ← value o key e.1
  let v ← value o type e.2
  .ok (k, v)

theorem value_eq (o : DecodeOptions) (t : ColumnType) (c : κ) :
    value o t c =
      if Cursor.isNull c then .ok .null
      else if !t.isStructured then Cursor.leaf c t o
      else match t.kind with
        | .array => do
          let items ← (← Cursor.elements c).mapM (value o (t.part 0))
          .ok (.array items)
        | .map => do
          let entries ← (← Cursor.entries c).mapM (pairValue o (t.part 0) (t.part 1))
          .ok (.map entries)
        | _ => (fieldValues o c 0 t.fields).map .object := by
  obtain ⟨name, kind, precision, scale, length, nullable, fields⟩ := t
  cases kind with
  | array => simp only [value, partValue_eq, ColumnType.part]
  | map =>
    simp only [value, partValue_eq, ColumnType.part]
    rfl
  | _ => rfl

/-- Each field of a decoded object was there and was decoded. -/
theorem fieldValues_eq_ok {o : DecodeOptions} {c : κ} {index : Nat} {ts : List ColumnType} {fs : List (String × Value)}
    (h : fieldValues o c index ts = .ok fs) {k : Nat} {u : ColumnType} (declared : ts[k]? = some u) :
    ∃ child v, Cursor.field c (index + k) u = .ok child ∧ value o u child = .ok v := by
  induction ts generalizing index fs k with
  | nil => cases declared
  | cons t ts ih =>
    rw [fieldValues] at h
    obtain ⟨child, found, h⟩ := bind_eq_ok.mp h
    obtain ⟨v, decoded, h⟩ := bind_eq_ok.mp h
    obtain ⟨rest, later, -⟩ := bind_eq_ok.mp h
    cases k with
    | zero =>
      obtain rfl : t = u := by simpa using declared
      exact ⟨child, v, found, decoded⟩
    | succ k =>
      rw [List.getElem?_cons_succ] at declared
      rw [Nat.add_comm k 1, ← Nat.add_assoc]
      exact ih later declared

end Decode
end RowStream

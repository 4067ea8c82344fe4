import RowStream.Decode.Scalar

/-! # The walk over nested types -/
namespace RowStream

/-- Positions in values of some source that a nested type describes. -/
class Cursor (κ : Type) where
  isNull : κ → Bool
  /-- The position of the field of that index. -/
  field : κ → Nat → ColumnType → Result κ
  elements : κ → Result (List κ)
  /-- Keys and values in the order of the source. -/
  entries : κ → Result (List (κ × κ))
  /-- The value of a type without parts. -/
  leaf : κ → ColumnType → DecodeOptions → Result Value

namespace Decode
variable {κ : Type} [Cursor κ]

def undeclared (o : DecodeOptions) (c : κ) : Result Value :=
  if Cursor.isNull c then .ok .null else Cursor.leaf c .plainText o

mutual
def value (o : DecodeOptions) : ColumnType → κ → Result Value
  | ⟨name, kind, precision, scale, length, nullable, fields⟩, c =>
    let t : ColumnType := ⟨name, kind, precision, scale, length, nullable, fields⟩
    if Cursor.isNull c then .ok .null
    else if !t.isStructured then Cursor.leaf c t o
    else match kind with
      | .array => do
        let items ← (← Cursor.elements c).mapM fun item => partValue o fields 0 item
        .ok (.array items)
      | .map => do
        let entries ← (← Cursor.entries c).mapM fun e => do
          let k ← partValue o fields 0 e.1
          let v ← partValue o fields 1 e.2
          .ok (k, v)
        .ok (.map entries)
      | _ => (fieldValues o c 0 fields).map .object

/-- The fields from an index on, each with its name. -/
def fieldValues (o : DecodeOptions) (c : κ) (index : Nat) : List ColumnType → Result (List (String × Value))
  | [] => .ok []
  | t :: ts => do
    let child ← Cursor.field c index t
    let v ← value o t child
    let rest ← fieldValues o c (index + 1) ts
    .ok ((t.name, v) :: rest)

def partValue (o : DecodeOptions) : List ColumnType → Nat → κ → Result Value
  | [], _, c => undeclared o c
  | t :: _, 0, c => value o t c
  | _ :: ts, index + 1, c => partValue o ts index c
end

/-- Parts without a declared type are texts. -/
theorem partValue_eq (o : DecodeOptions) (ts : List ColumnType) (index : Nat) (c : κ) :
    partValue o ts index c = value o (ts.getD index .plainText) c := by
  induction ts generalizing index with
  | nil => simp [partValue, undeclared, value, ColumnType.plainText, ColumnType.isStructured]
  | cons t ts ih =>
    cases index with
    | zero => simp [partValue]
    | succ n => simpa [partValue] using ih n

end Decode
end RowStream

import RowStream.Decode.TextRows
import RowStream.Columnar.Column

/-! # Rows of columns -/
namespace RowStream
open RowStream.Columnar RowStream.Number

/-- A row of a column, which may be part of another column. -/
structure ColumnCursor where
  column : Column
  row : Nat
deriving Repr, BEq

namespace ColumnCursor

def isNull (c : ColumnCursor) : Bool := c.column.isNull c.row

def unexpected {α : Type} (c : ColumnCursor) (kind : TypeKind) : Result α :=
  .error (.decode ("unexpected Arrow type " ++ c.column.type.text ++ " for " ++ kind.name ++ " value"))

/-- The number at a row of a column of signed integers, even where the row is null. -/
def intAt? (c : Column) (row : Nat) : Option Int :=
  match c with
  | .word .int8 ps | .word .int16 ps | .word .int32 ps | .word .int64 ps => some (ps.getD row default).value
  | _ => none

def int? (c : ColumnCursor) : Option Int := intAt? c.column c.row

def partInt? (fields : List (Columnar.Field Column)) (index row : Nat) : Option Int :=
  fields[index]?.bind fun f => intAt? f.content row

def text? (c : ColumnCursor) : Option String :=
  match c.column with
  | .utf8 _ ps => ps.getD c.row none
  | _ => none

/-- What arrives as text follows the rules for texts. -/
def textLeaf (c : ColumnCursor) (t : ColumnType) (o : DecodeOptions) : Result Value :=
  match c.text? with
  | some s => Decode.text t s o
  | none => c.unexpected t.kind

def fixedLeaf (c : ColumnCursor) (t : ColumnType) (o : DecodeOptions) : Result Value :=
  match c.column, c.int? with
  | _, some n => .ok (Decode.fixedValue n t.scale o)
  | .word (.decimal128 _ scale) ps, none =>
    if 0 ≤ scale then .ok (Decode.fixedValue (ps.getD c.row default).value scale.toNat o)
    else c.unexpected .fixed
  | .float64 ps, none => .ok (.float ((ps.getD c.row none).getD .nan))
  | _, none => c.textLeaf t o

def realLeaf (c : ColumnCursor) (t : ColumnType) (o : DecodeOptions) : Result Value :=
  match c.column with
  | .float64 ps | .float32 ps => .ok (.float ((ps.getD c.row none).getD .nan))
  | _ => c.textLeaf t o

def booleanLeaf (c : ColumnCursor) (t : ColumnType) (o : DecodeOptions) : Result Value :=
  match c.column with
  | .boolean ps => .ok (.bool ((ps.getD c.row none).getD false))
  | _ => c.textLeaf t o

def dateLeaf (c : ColumnCursor) (t : ColumnType) (o : DecodeOptions) : Result Value :=
  match c.column, c.int? with
  | .word .date32 ps, _ => (Decode.dateOfDays (ps.getD c.row default).value).map .date
  | _, some days => (Decode.dateOfDays days).map .date
  | _, none => c.textLeaf t o

def timeLeaf (c : ColumnCursor) (t : ColumnType) (o : DecodeOptions) : Result Value :=
  match c.int? with
  | some n => do
    let (seconds, nanos) ← Decode.splitScaled n t.scale
    (Decode.timeOfParts seconds nanos).map .time
  | none => c.textLeaf t o

def nanosOf (c : ColumnCursor) (kind : TypeKind) (fraction : Int) : Result Nat :=
  if fraction ∈ Range.nat32 then .ok fraction.toNat else c.unexpected kind

/-- Seconds and nanos of a timestamp: a scaled integer, or a struct of the two. -/
def epochParts (c : ColumnCursor) (kind : TypeKind) (scale : Nat) : Result (Int × Nat) :=
  match c.column, c.int? with
  | _, some n => Decode.splitScaled n scale
  | .struct _ fields, none =>
    match partInt? fields 0 c.row, partInt? fields 1 c.row with
    | some epoch, some fraction => (c.nanosOf kind fraction).map (epoch, ·)
    | _, _ => c.unexpected kind
  | _, none => c.unexpected kind

def timestampLeaf (c : ColumnCursor) (t : ColumnType) (o : DecodeOptions)
    (wrap : Calendar.Instant → Value) : Result Value :=
  match c.text? with
  | some s => Decode.text t s o
  | none => do
    let (seconds, nanos) ← c.epochParts t.kind t.scale
    (Decode.instantOfParts seconds nanos).map wrap

/-- A struct of a scaled integer and an offset, or of seconds, nanos and an offset. -/
def zonedLeaf (c : ColumnCursor) (t : ColumnType) (o : DecodeOptions) : Result Value :=
  match c.column with
  | .struct _ fields =>
    match fields.length, partInt? fields 0 c.row, partInt? fields 1 c.row, partInt? fields 2 c.row with
    | 2, some epoch, some offset, _ => do
      let (seconds, nanos) ← Decode.splitScaled epoch t.scale
      (Decode.zonedOfParts seconds nanos offset).map .timestampTz
    | 3, some seconds, some fraction, some offset => do
      let nanos ← c.nanosOf .timestampTz fraction
      (Decode.zonedOfParts seconds nanos offset).map .timestampTz
    | _, _, _, _ => c.unexpected .timestampTz
  | _ => c.textLeaf t o

def binaryLeaf (c : ColumnCursor) (t : ColumnType) (o : DecodeOptions) : Result Value :=
  match c.column with
  | .binary _ ps | .fixedBinary _ ps => .ok (.binary ((ps.getD c.row none).getD []))
  | _ => c.textLeaf t o

def leaf (c : ColumnCursor) (t : ColumnType) (o : DecodeOptions) : Result Value :=
  match t.kind with
  | .fixed => c.fixedLeaf t o
  | .real => c.realLeaf t o
  | .boolean => c.booleanLeaf t o
  | .date => c.dateLeaf t o
  | .time => c.timeLeaf t o
  | .timestampNtz => c.timestampLeaf t o .timestampNtz
  | .timestampLtz => c.timestampLeaf t o .timestampLtz
  | .timestampTz => c.zonedLeaf t o
  | .binary => c.binaryLeaf t o
  | .text | .variant | .object | .array | .map => c.textLeaf t o

/-- The field of that name, else the one at the index. -/
def fieldOf? (fields : List (Columnar.Field Column)) (index : Nat) (name : String) : Option (Columnar.Field Column) :=
  (fields.find? (·.name == name)).or fields[index]?

def field (c : ColumnCursor) (index : Nat) (t : ColumnType) : Result ColumnCursor :=
  match c.column with
  | .struct _ fields =>
    match fieldOf? fields index t.name with
    | some f => .ok ⟨f.content, c.row⟩
    | none => .error (.decode ("struct has no field '" ++ t.name ++ "'"))
  | _ => c.unexpected .object

def elements (c : ColumnCursor) : Result (List ColumnCursor) :=
  match c.column with
  | .list _ _ offsets item => .ok ((Column.partsOf offsets c.row).map fun i => ⟨item.content, i⟩)
  | _ => c.unexpected .array

def entries (c : ColumnCursor) : Result (List (ColumnCursor × ColumnCursor)) :=
  match c.column with
  | .map _ _ offsets key value =>
    .ok ((Column.partsOf offsets c.row).map fun i => (⟨key.content, i⟩, ⟨value.content, i⟩))
  | _ => c.unexpected .map

instance : Cursor ColumnCursor := ⟨isNull, field, elements, entries, leaf⟩

end ColumnCursor

namespace Decode

def columnCountMismatch (b : Batch) (schema : Schema) : Error :=
  .decode ("batch has " ++ toString b.columns.length ++ " columns, schema has " ++ toString schema.length)

def columnRow (schema : Schema) (o : DecodeOptions) (b : Batch) (row : Nat) : Result Row :=
  (b.columns.zip schema).mapM fun p =>
    Result.mapError (inCell p.2.name row) (value o p.2 (⟨p.1.content, row⟩ : ColumnCursor))

def batchRows (schema : Schema) (o : DecodeOptions) (b : Batch) : Result (List Row) :=
  if b.columns.length = schema.length then (List.range b.rows).mapM (columnRow schema o b)
  else .error (columnCountMismatch b schema)

def batchesRows (schema : Schema) (o : DecodeOptions) (bs : List Batch) : Result (List Row) :=
  (bs.mapM (batchRows schema o)).map List.flatten

end Decode
end RowStream

import RowStream.Schema
import RowStream.Columnar.DataType

/-! # The types that columns convert to -/
namespace RowStream.Columnar

structure BatchOptions where
  higherPrecision : Bool := false
  timestampUnit : TimeUnit := .nanosecond
deriving Repr, DecidableEq

def maxPrecision : Nat := 38

/-- Exact numbers need a precision and a scale; without them whole numbers are 64-bit integers and
all others floats. -/
def fixedTarget (o : BatchOptions) (precision : Option Nat) (scale : Nat) : DataType :=
  if o.higherPrecision then
    .word (.decimal128 (min (max (precision.getD maxPrecision) 1) maxPrecision) (min scale maxPrecision : Nat))
  else if scale = 0 then .word .int64
  else .float64

def utcZone : Option String := some "UTC"

mutual
def targetType (o : BatchOptions) : ColumnType → DataType
  | ⟨_, kind, precision, scale, _, _, fields⟩ =>
    match kind with
    | .fixed => fixedTarget o precision scale
    | .real => .float64
    | .boolean => .boolean
    | .date => .word .date32
    | .time => .word (.time64 .nanosecond)
    | .timestampNtz => .word (.timestamp o.timestampUnit none)
    | .timestampLtz | .timestampTz => .word (.timestamp o.timestampUnit utcZone)
    | .binary => .binary false
    | .object => if fields.isEmpty then .utf8 false else .struct (targetFields o fields)
    | .array => if fields.isEmpty then .utf8 false else .list false ⟨"item", true, targetPart o fields 0⟩
    | .map => .map {} ⟨"key", false, targetPart o fields 0⟩ ⟨"value", true, targetPart o fields 1⟩
    | .text | .variant => .utf8 false

def targetFields (o : BatchOptions) : List ColumnType → List (Field DataType)
  | [] => []
  | t :: ts => ⟨t.name, true, targetType o t⟩ :: targetFields o ts

def targetPart (o : BatchOptions) : List ColumnType → Nat → DataType
  | [], _ => .utf8 false
  | t :: _, 0 => targetType o t
  | _ :: ts, index + 1 => targetPart o ts index
end

/-- The converted schema. A column keeps whether it may be null, a part may always be. -/
def targetSchema (o : BatchOptions) (schema : Schema) : List (Field DataType) :=
  schema.map fun t => ⟨t.name, t.nullable, targetType o t⟩

end RowStream.Columnar

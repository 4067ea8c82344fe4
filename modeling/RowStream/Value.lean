import RowStream.Text.Ascii
import RowStream.Number.Binary64
import RowStream.Calendar.Instant

/-! # Decoded values -/
namespace RowStream
open RowStream.Number RowStream.Calendar RowStream.Text

/-- A decoded cell. Whole numbers within 64 bits are `int`; `bigInt` and `decimal` occur only where
numbers are kept exactly. Objects have their fields in the order of the schema, maps their entries
in the order of the source. -/
inductive Value where
  | null
  | bool (b : Bool)
  | int (n : Int)
  | bigInt (n : Int)
  | decimal (unscaled : Int) (scale : Nat)
  | float (x : Binary64)
  | text (s : String)
  | binary (bytes : List UInt8)
  | date (d : Date)
  | time (t : Time)
  | timestampNtz (wall : Instant)
  | timestampLtz (instant : Instant)
  | timestampTz (z : Zoned)
  | object (fields : List (String × Value))
  | array (items : List Value)
  | map (entries : List (Value × Value))
deriving Repr, BEq, Inhabited

abbrev Row := List Value

namespace Value

def isNull : Value → Bool
  | .null => true
  | _ => false

theorem isNull_iff (v : Value) : v.isNull = true ↔ v = .null := by cases v <;> simp [isNull]

def typeName : Value → String
  | .null => "null"
  | .bool _ => "bool"
  | .int _ => "int"
  | .bigInt _ => "bigint"
  | .decimal _ _ => "decimal"
  | .float _ => "float"
  | .text _ => "text"
  | .binary _ => "binary"
  | .date _ => "date"
  | .time _ => "time"
  | .timestampNtz _ => "timestamp_ntz"
  | .timestampLtz _ => "timestamp_ltz"
  | .timestampTz _ => "timestamp_tz"
  | .object _ => "object"
  | .array _ => "array"
  | .map _ => "map"

def findField (fields : List (String × Value)) (name : String) : Option Value :=
  (fields.find? fun f => sameIgnoringCase f.1 name).map (·.2)

def field? (v : Value) (name : String) : Option Value :=
  match v with
  | .object fields => findField fields name
  | _ => none

def size? : Value → Option Nat
  | .object fields => some fields.length
  | .array items => some items.length
  | .map entries => some entries.length
  | _ => none

end Value
end RowStream

import RowStream.Text.Ascii

/-! # Column types and result schemas -/
namespace RowStream
open RowStream.Text

inductive TypeKind
  | fixed | real | text | boolean | date | time | timestampNtz | timestampLtz | timestampTz
  | binary | variant | object | array | map
deriving Repr, DecidableEq

namespace TypeKind

/-- The kind that a type name stands for, in any case. An unknown type is read as text. -/
def ofName (name : String) : TypeKind :=
  let n := String.ofList (lower name.toList)
  if n ∈ ["fixed", "number", "decimal", "int", "integer", "bigint"] then .fixed
  else if n ∈ ["real", "float", "double"] then .real
  else if n = "boolean" then .boolean
  else if n = "date" then .date
  else if n = "time" then .time
  else if n ∈ ["timestamp_ntz", "timestamp", "datetime"] then .timestampNtz
  else if n = "timestamp_ltz" then .timestampLtz
  else if n = "timestamp_tz" then .timestampTz
  else if n ∈ ["binary", "varbinary"] then .binary
  else if n = "variant" then .variant
  else if n = "object" then .object
  else if n = "array" then .array
  else if n = "map" then .map
  else .text

def name : TypeKind → String
  | .fixed => "FIXED"
  | .real => "REAL"
  | .text => "TEXT"
  | .boolean => "BOOLEAN"
  | .date => "DATE"
  | .time => "TIME"
  | .timestampNtz => "TIMESTAMP_NTZ"
  | .timestampLtz => "TIMESTAMP_LTZ"
  | .timestampTz => "TIMESTAMP_TZ"
  | .binary => "BINARY"
  | .variant => "VARIANT"
  | .object => "OBJECT"
  | .array => "ARRAY"
  | .map => "MAP"

end TypeKind

/-- Name and type of a column or of a part of a structured one. The parts of an object are its
fields, an array has one part for its elements, a map has one for its keys and one for its values. -/
structure ColumnType where
  name : String := ""
  kind : TypeKind
  precision : Option Nat := none
  scale : Nat := 0
  length : Option Nat := none
  nullable : Bool := true
  fields : List ColumnType := []
deriving Repr, BEq

namespace ColumnType

instance : Inhabited ColumnType := ⟨{ kind := .text }⟩

/-- The type of map keys, map values and elements that nothing is said about. -/
def plainText : ColumnType := { kind := .text }

/-- An object or array without parts travels as text, a map never does. -/
def isStructured (t : ColumnType) : Bool :=
  match t.kind with
  | .object | .array => !t.fields.isEmpty
  | .map => true
  | _ => false

def part (t : ColumnType) (index : Nat) : ColumnType := t.fields.getD index plainText

end ColumnType

abbrev Schema := List ColumnType

def Schema.names (s : Schema) : List String := s.map (·.name)

end RowStream

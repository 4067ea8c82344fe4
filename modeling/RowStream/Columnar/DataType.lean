import RowStream.Text.Blank
import RowStream.Text.Ascii
import RowStream.Text.Quote

/-! # Types of columns -/
namespace RowStream.Columnar
open RowStream.Text

inductive TimeUnit | second | millisecond | microsecond | nanosecond deriving Repr, DecidableEq

namespace TimeUnit

def symbol : TimeUnit → String
  | .second => "s"
  | .millisecond => "ms"
  | .microsecond => "us"
  | .nanosecond => "ns"

def name : TimeUnit → String
  | .second => "second"
  | .millisecond => "millisecond"
  | .microsecond => "microsecond"
  | .nanosecond => "nanosecond"

def digits : TimeUnit → Nat
  | .second => 0
  | .millisecond => 3
  | .microsecond => 6
  | .nanosecond => 9

def ofText? (text : String) : Option TimeUnit :=
  let t := String.ofList (lower (trimmed text))
  [second, millisecond, microsecond, nanosecond].find? fun u => t = u.symbol ∨ t = u.name

end TimeUnit

inductive WordType
  | int8 | int16 | int32 | int64 | uint8 | uint16 | uint32 | uint64
  | date32 | date64
  | time32 (unit : TimeUnit) | time64 (unit : TimeUnit)
  | timestamp (unit : TimeUnit) (zone : Option String)
  | decimal128 (precision : Nat) (scale : Int)
deriving Repr, DecidableEq

inductive IntervalUnit | yearMonth | dayTime | monthDayNano deriving Repr, DecidableEq

/-- Types of one value a place that nothing here reads. -/
inductive UnreadType
  | float16
  | duration (unit : TimeUnit)
  | interval (unit : IntervalUnit)
  | decimal32 (precision : Nat) (scale : Int)
  | decimal64 (precision : Nat) (scale : Int)
  | decimal256 (precision : Nat) (scale : Int)
deriving Repr, DecidableEq

structure EntriesForm where
  name : String := "entries"
  nullable : Bool := false
  sorted : Bool := false
deriving Repr, DecidableEq

structure Field (α : Type) where
  name : String
  nullable : Bool := true
  content : α
deriving Repr, BEq, Inhabited

/-- The item of a list and the parts of a map are fields too. -/
inductive DataType where
  | null
  | boolean
  | word (type : WordType)
  | float32
  | float64
  | utf8 (large : Bool)
  | binary (large : Bool)
  | fixedBinary (size : Nat)
  | unread (type : UnreadType)
  | utf8View
  | binaryView
  | struct (fields : List (Field DataType))
  | list (large : Bool) (item : Field DataType)
  | fixedList (size : Nat) (item : Field DataType)
  | map (form : EntriesForm) (key value : Field DataType)
deriving Repr, BEq, Inhabited

def WordType.text : WordType → String
  | .int8 => "Int8"
  | .int16 => "Int16"
  | .int32 => "Int32"
  | .int64 => "Int64"
  | .uint8 => "UInt8"
  | .uint16 => "UInt16"
  | .uint32 => "UInt32"
  | .uint64 => "UInt64"
  | .date32 => "Date32"
  | .date64 => "Date64"
  | .time32 u => "Time32(" ++ u.symbol ++ ")"
  | .time64 u => "Time64(" ++ u.symbol ++ ")"
  | .timestamp u none => "Timestamp(" ++ u.symbol ++ ")"
  | .timestamp u (some zone) => "Timestamp(" ++ u.symbol ++ ", " ++ quoted zone ++ ")"
  | .decimal128 p s => "Decimal128(" ++ toString p ++ ", " ++ toString s ++ ")"

def IntervalUnit.text : IntervalUnit → String
  | .yearMonth => "YearMonth"
  | .dayTime => "DayTime"
  | .monthDayNano => "MonthDayNano"

def UnreadType.text : UnreadType → String
  | .float16 => "Float16"
  | .duration u => "Duration(" ++ u.symbol ++ ")"
  | .interval u => "Interval(" ++ u.text ++ ")"
  | .decimal32 p s => "Decimal32(" ++ toString p ++ ", " ++ toString s ++ ")"
  | .decimal64 p s => "Decimal64(" ++ toString p ++ ", " ++ toString s ++ ")"
  | .decimal256 p s => "Decimal256(" ++ toString p ++ ", " ++ toString s ++ ")"

def presence (nullable : Bool) : String := if nullable then "" else "non-null "

def itemName (name : String) : String := if name = "item" then "" else ", field: '" ++ name ++ "'"

mutual
def DataType.text : DataType → String
  | .null => "Null"
  | .boolean => "Boolean"
  | .word w => w.text
  | .float32 => "Float32"
  | .float64 => "Float64"
  | .utf8 large => if large then "LargeUtf8" else "Utf8"
  | .binary large => if large then "LargeBinary" else "Binary"
  | .fixedBinary n => "FixedSizeBinary(" ++ toString n ++ ")"
  | .unread t => t.text
  | .utf8View => "Utf8View"
  | .binaryView => "BinaryView"
  | .struct fields => "Struct(" ++ ", ".intercalate (fieldTexts fields) ++ ")"
  | .list large ⟨name, nullable, t⟩ =>
    (if large then "LargeList(" else "List(") ++ presence nullable ++ t.text ++ itemName name ++ ")"
  | .fixedList size ⟨name, nullable, t⟩ =>
    "FixedSizeList(" ++ toString size ++ " x " ++ presence nullable ++ t.text ++ itemName name ++ ")"
  | .map form key value =>
    "Map(" ++ quoted form.name ++ ": " ++ presence form.nullable ++ "Struct(" ++ fieldText key ++ ", "
      ++ fieldText value ++ "), " ++ (if form.sorted then "sorted)" else "unsorted)")

def fieldTexts : List (Field DataType) → List String
  | [] => []
  | f :: fs => fieldText f :: fieldTexts fs

def fieldText : Field DataType → String
  | ⟨name, nullable, t⟩ => quoted name ++ ": " ++ presence nullable ++ t.text
end

end RowStream.Columnar

import RowStream.Columnar.Table
import RowStream.Columnar.DataType

/-! # Declared types

A schema declares each field by its name, a tag for its type, a description of the type and the fields
below it. -/
namespace RowStream.Columnar

def unitOf? : Nat → Option TimeUnit
  | 0 => some .second
  | 1 => some .millisecond
  | 2 => some .microsecond
  | 3 => some .nanosecond
  | _ => none

def intervalOf? : Nat → Option IntervalUnit
  | 0 => some .yearMonth
  | 1 => some .dayTime
  | 2 => some .monthDayNano
  | _ => none

def integerOf? (width : Nat) (signed : Bool) : Option WordType :=
  match width, signed with
  | 8, true => some .int8
  | 16, true => some .int16
  | 32, true => some .int32
  | 64, true => some .int64
  | 8, false => some .uint8
  | 16, false => some .uint16
  | 32, false => some .uint32
  | 64, false => some .uint64
  | _, _ => none

/-- The type of a tag, its description and the fields below it. Types that columns here cannot have
are refused. -/
def typeOf? (tag : Nat) (t : Table) (children : List (Field DataType)) : Option DataType :=
  match tag with
  | 1 => some .null
  | 2 => do
    (integerOf? (← t.natField? 0 4 0) (← t.boolField? 1)).map .word
  | 3 => do
    match ← t.natField? 0 2 0 with
    | 0 => some (.unread .float16)
    | 1 => some .float32
    | 2 => some .float64
    | _ => none
  | 4 => some (.binary false)
  | 5 => some (.utf8 false)
  | 6 => some .boolean
  | 7 => do
    let precision ← t.natField? 0 4 0
    let scale ← t.intField? 1 4 0
    match ← t.natField? 2 4 128 with
    | 32 => some (.unread (.decimal32 precision scale))
    | 64 => some (.unread (.decimal64 precision scale))
    | 128 => some (.word (.decimal128 precision scale))
    | 256 => some (.unread (.decimal256 precision scale))
    | _ => none
  | 8 => do
    match ← t.natField? 0 2 1 with
    | 0 => some (.word .date32)
    | 1 => some (.word .date64)
    | _ => none
  | 9 => do
    let unit ← unitOf? (← t.natField? 0 2 1)
    match ← t.natField? 1 4 32, unit with
    | 32, .second | 32, .millisecond => some (.word (.time32 unit))
    | 64, .microsecond | 64, .nanosecond => some (.word (.time64 unit))
    | _, _ => none
  | 10 => do
    let unit ← unitOf? (← t.natField? 0 2 0)
    some (.word (.timestamp unit (← t.textField? 1)))
  | 11 => do some (.unread (.interval (← intervalOf? (← t.natField? 0 2 0))))
  | 12 => match children with
    | [item] => some (.list false item)
    | _ => none
  | 13 => some (.struct children)
  | 15 => (t.natField? 0 4 0).map .fixedBinary
  | 16 => match children with
    | [item] => (t.natField? 0 4 0).map fun size => .fixedList size item
    | _ => none
  | 17 => match children with
    | [⟨name, nullable, .struct [key, value]⟩] => do
      some (.map ⟨name, nullable, ← t.boolField? 0⟩ key value)
    | _ => none
  | 18 => do some (.unread (.duration (← unitOf? (← t.natField? 0 2 1))))
  | 19 => some (.binary true)
  | 20 => some (.utf8 true)
  | 21 => match children with
    | [item] => some (.list true item)
    | _ => none
  | 23 => some .binaryView
  | 24 => some .utf8View
  | _ => none

def maxNesting : Nat := 64

def fieldOf? : Nat → Table → Option (Field DataType)
  | 0, _ => none
  | levels + 1, t => do
    let name := (← t.textField? 0).getD ""
    let nullable ← t.boolField? 1
    let tag ← t.natField? 2 1 0
    let description ← (← t.tableField? 3)
    if (← t.fieldPlace? 4).isSome then none
    else
      let children ← (← t.tablesField? 5).mapM (fieldOf? levels)
      some ⟨name, nullable, ← typeOf? tag description children⟩

end RowStream.Columnar

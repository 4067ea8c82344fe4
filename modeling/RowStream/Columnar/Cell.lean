import RowStream.Columnar.Column

/-! # What a place of a column says -/
namespace RowStream.Columnar
open RowStream.Number

inductive Cell where
  | null
  | bool (b : Bool)
  | int (n : Int)
  | float (x : Binary64)
  | text (s : String)
  | binary (bytes : List UInt8)
  | struct (parts : List Cell)
  | list (items : List Cell)
  | map (entries : List (Cell × Cell))
  | unread (type : DataType)
deriving Repr, BEq, Inhabited

namespace Column

/-- Numbers without a sign, dates in milliseconds and times in units other than nanoseconds are not
shown. -/
def isShown : WordType → Bool
  | .uint8 | .uint16 | .uint32 | .uint64 | .date64 | .time32 _ => false
  | .time64 unit => unit == .nanosecond
  | _ => true

def wordCell (w : WordType) (s : Slot) : Cell :=
  if !s.valid then .null else if isShown w then .int s.value else .unread (.word w)

def cellOf {α : Type} (wrap : α → Cell) : Option α → Cell
  | some a => wrap a
  | none => .null

mutual
/-- The cell at a row. Large lists and bytes of fixed size are not taken apart. -/
def cell : Column → Nat → Cell
  | .null _, _ => .unread .null
  | .boolean ps, row => cellOf .bool (ps.getD row none)
  | .word w ps, row => wordCell w (ps.getD row default)
  | .float32 ps, row => cellOf .float (ps.getD row none)
  | .float64 ps, row => cellOf .float (ps.getD row none)
  | .utf8 _ ps, row => cellOf .text (ps.getD row none)
  | .binary _ ps, row => cellOf .binary (ps.getD row none)
  | .fixedBinary n ps, row => if (ps.getD row none).isSome then .unread (.fixedBinary n) else .null
  | .struct valid fields, row => if valid.getD row false then .struct (fieldCells fields row) else .null
  | .list large valid offsets item, row =>
    if !valid.getD row false then .null
    else if large then .unread (.list large (fieldType item))
    else .list ((partsOf offsets row).map (fieldCell item))
  | .unread t valid, row => if valid.getD row false then .unread t else .null
  | .map _ valid offsets key value, row =>
    if valid.getD row false then
      .map ((partsOf offsets row).map fun i => (fieldCell key i, fieldCell value i))
    else .null

def fieldCells : List (Field Column) → Nat → List Cell
  | [], _ => []
  | f :: fs, row => fieldCell f row :: fieldCells fs row

def fieldCell : Field Column → Nat → Cell
  | ⟨_, _, c⟩, row => c.cell row
end

def cells (c : Column) : List Cell := (List.range c.length).map c.cell

end Column
end RowStream.Columnar

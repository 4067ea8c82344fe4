import RowStream.Columnar.DataType
import RowStream.Number.Binary64

/-! # Columns and batches -/
namespace RowStream.Columnar
open RowStream.Number

/-- One place of a column of whole numbers. A null place has a number too, which says nothing. -/
structure Slot where
  valid : Bool
  value : Int
deriving Repr, DecidableEq, Inhabited

def Slot.ofOption : Option Int → Slot
  | some n => ⟨true, n⟩
  | none => ⟨false, 0⟩

/-- The places of a column. Lists and maps keep their parts in a column of all parts, and each place
has those between its offset and the next one. -/
inductive Column where
  | null (count : Nat)
  | boolean (places : List (Option Bool))
  | word (type : WordType) (places : List Slot)
  | float32 (places : List (Option Binary64))
  | float64 (places : List (Option Binary64))
  | utf8 (large : Bool) (places : List (Option String))
  | binary (large : Bool) (places : List (Option (List UInt8)))
  | fixedBinary (size : Nat) (places : List (Option (List UInt8)))
  | struct (valid : List Bool) (fields : List (Field Column))
  | list (large : Bool) (valid : List Bool) (offsets : List Nat) (item : Field Column)
  | map (form : EntriesForm) (valid : List Bool) (offsets : List Nat) (key value : Field Column)
  /-- Of values that nothing reads only the presence is kept. -/
  | unread (type : DataType) (valid : List Bool)
deriving Repr, BEq

namespace Column

instance : Inhabited Column := ⟨.null 0⟩

mutual
def type : Column → DataType
  | .null _ => .null
  | .boolean _ => .boolean
  | .word w _ => .word w
  | .float32 _ => .float32
  | .float64 _ => .float64
  | .utf8 large _ => .utf8 large
  | .binary large _ => .binary large
  | .fixedBinary n _ => .fixedBinary n
  | .struct _ fields => .struct (fieldTypes fields)
  | .list large _ _ item => .list large (fieldType item)
  | .map form _ _ key value => .map form (fieldType key) (fieldType value)
  | .unread t _ => t

def fieldTypes : List (Field Column) → List (Field DataType)
  | [] => []
  | f :: fs => fieldType f :: fieldTypes fs

def fieldType : Field Column → Field DataType
  | ⟨name, nullable, c⟩ => ⟨name, nullable, c.type⟩
end

def length : Column → Nat
  | .null n => n
  | .boolean ps => ps.length
  | .word _ ps => ps.length
  | .float32 ps => ps.length
  | .float64 ps => ps.length
  | .utf8 _ ps => ps.length
  | .binary _ ps => ps.length
  | .fixedBinary _ ps => ps.length
  | .struct valid _ => valid.length
  | .list _ valid _ _ => valid.length
  | .map _ valid _ _ _ => valid.length
  | .unread _ valid => valid.length

/-- A place is null. The places of a column of nulls are not: nothing is recorded about them. -/
def isNull (c : Column) (row : Nat) : Bool :=
  match c with
  | .null _ => false
  | .boolean ps => (ps.getD row none).isNone
  | .word _ ps => !(ps.getD row default).valid
  | .float32 ps => (ps.getD row none).isNone
  | .float64 ps => (ps.getD row none).isNone
  | .utf8 _ ps => (ps.getD row none).isNone
  | .binary _ ps => (ps.getD row none).isNone
  | .fixedBinary _ ps => (ps.getD row none).isNone
  | .struct valid _ => !valid.getD row false
  | .list _ valid _ _ => !valid.getD row false
  | .map _ valid _ _ _ => !valid.getD row false
  | .unread _ valid => !valid.getD row false

def hasNull (c : Column) : Bool := (List.range c.length).any c.isNull

def partsOf (offsets : List Nat) (row : Nat) : List Nat :=
  let start := offsets.getD row 0
  List.range' start (offsets.getD (row + 1) 0 - start)

def cutList {α : Type} (start count : Nat) (xs : List α) : List α := (xs.drop start).take count

mutual
def slice (start count : Nat) : Column → Column
  | .null n => .null (min count (n - start))
  | .boolean ps => .boolean (cutList start count ps)
  | .word w ps => .word w (cutList start count ps)
  | .float32 ps => .float32 (cutList start count ps)
  | .float64 ps => .float64 (cutList start count ps)
  | .utf8 large ps => .utf8 large (cutList start count ps)
  | .binary large ps => .binary large (cutList start count ps)
  | .fixedBinary n ps => .fixedBinary n (cutList start count ps)
  | .struct valid fields => .struct (cutList start count valid) (sliceFields start count fields)
  | .list large valid offsets item =>
    .list large (cutList start count valid) (cutList start (count + 1) offsets) item
  | .map form valid offsets key value =>
    .map form (cutList start count valid) (cutList start (count + 1) offsets) key value
  | .unread t valid => .unread t (cutList start count valid)

def sliceFields (start count : Nat) : List (Field Column) → List (Field Column)
  | [] => []
  | ⟨name, nullable, c⟩ :: fs => ⟨name, nullable, c.slice start count⟩ :: sliceFields start count fs
end

end Column

structure Batch where
  rows : Nat
  columns : List (Field Column)
deriving Repr, BEq

def totalRows (bs : List Batch) : Nat := bs.foldr (fun b n => b.rows + n) 0

def Batch.slice (b : Batch) (start count : Nat) : Batch where
  rows := min count (b.rows - start)
  columns := Column.sliceFields start count b.columns

end RowStream.Columnar

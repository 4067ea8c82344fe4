import RowStream.Columnar.Declared
import RowStream.Columnar.Column

/-! # Columns on the wire -/
namespace RowStream.Columnar
open RowStream.Number RowStream.Text

structure Node where
  length : Nat
  nulls : Int
deriving Repr, DecidableEq

/-- What is left of a batch: a node of each column, place and size of each buffer in the body, and
how many buffers the texts of each column of views have. -/
structure Parts where
  body : Buffer
  compressed : Bool
  nodes : List Node
  buffers : List (Nat × Nat)
  viewCounts : List Nat

/-- The bytes of a compressed buffer begin with their length. Only what is left as it is can be read:
no bytes at all, or those with a length of minus one. -/
def inflate? (b : Buffer) : Option Buffer :=
  if b.isEmpty then some b
  else do
    match ← b.int? 8 0 with
    | 0 => some #[]
    | -1 => some (b.extract 8 b.size)
    | _ => none

namespace Parts

def node? (p : Parts) : Option (Node × Parts) :=
  match p.nodes with
  | n :: rest => some (n, { p with nodes := rest })
  | [] => none

def buffer? (p : Parts) : Option (Buffer × Parts) :=
  match p.buffers with
  | (start, size) :: rest =>
    if start + size ≤ p.body.size then
      let b := p.body.extract start (start + size)
      (if p.compressed then inflate? b else some b).map (·, { p with buffers := rest })
    else none
  | [] => none

def takeBuffers? : Nat → Parts → Option (List Buffer × Parts)
  | 0, p => some ([], p)
  | n + 1, p => do
    let (b, p) ← p.buffer?
    let (bs, p) ← takeBuffers? n p
    some (b :: bs, p)

def viewCount? (p : Parts) : Option (Nat × Parts) :=
  match p.viewCounts with
  | n :: rest => some (n, { p with viewCounts := rest })
  | [] => none

end Parts

def bits? (b : Buffer) (length : Nat) : Option (List Bool) :=
  if (length + 7) / 8 ≤ b.size then
    some ((List.range length).map fun i => (b.getD (i / 8) 0).toNat.testBit (i % 8))
  else none

def bitmap? (b : Buffer) (node : Node) : Option (List Bool) := do
  let valid ← bits? b node.length
  if (valid.count false : Int) = node.nulls then some valid else none

/-- Without nulls the bitmap does not count. -/
def validity? (b : Buffer) (node : Node) : Option (List Bool) :=
  if node.nulls ≤ 0 then some (List.replicate node.length true) else bitmap? b node

/-- Offsets grow and stay within the parts. A column of no places may have none. -/
def offsets? (width : Nat) (b : Buffer) (length parts : Nat) : Option (List Nat) :=
  if length = 0 ∧ b.isEmpty then some [0]
  else if b.size < width * (length + 1) then none
  else do
    let os ← (List.range (length + 1)).mapM fun i => b.nat? width (width * i)
    if (os.zip (os.drop 1)).all (fun p => p.1 ≤ p.2) && os.getLastD 0 ≤ parts then some os else none

def masked {α : Type} (valid : List Bool) (values : List α) : List (Option α) :=
  (valid.zip values).map fun p => if p.1 then some p.2 else none

def WordType.width : WordType → Nat
  | .int8 | .uint8 => 1
  | .int16 | .uint16 => 2
  | .int32 | .uint32 | .date32 | .time32 _ => 4
  | .int64 | .uint64 | .date64 | .time64 _ | .timestamp _ _ => 8
  | .decimal128 _ _ => 16

def WordType.isSigned : WordType → Bool
  | .uint8 | .uint16 | .uint32 | .uint64 => false
  | _ => true

def UnreadType.width : UnreadType → Nat
  | .float16 => 2
  | .interval .yearMonth | .decimal32 _ _ => 4
  | .duration _ | .interval .dayTime | .decimal64 _ _ => 8
  | .interval .monthDayNano => 16
  | .decimal256 _ _ => 32

def words? (w : WordType) (b : Buffer) (length : Nat) : Option (List Int) :=
  if b.size < w.width * length then none
  else (List.range length).mapM fun i =>
    if w.isSigned then b.int? w.width (w.width * i) else (b.nat? w.width (w.width * i)).map Int.ofNat

def blocks? (size : Nat) (b : Buffer) (length : Nat) : Option (List (List UInt8)) :=
  if b.size < size * length then none
  else (List.range length).mapM fun i => b.bytes? (size * i) size

def pieces? (os : List Nat) (b : Buffer) : Option (List (List UInt8)) :=
  (os.zip (os.drop 1)).mapM fun p => b.bytes? p.1 (p.2 - p.1)

/-- A character begins at the place, or the buffer ends there. -/
def isBoundary (b : Buffer) (place : Nat) : Bool := !(b[place]?.any Utf8.isTail)

/-- Pieces of text. Null places have to hold text as well, and where all bytes together are text no
piece begins or ends inside a character. -/
def texts? (os : List Nat) (b : Buffer) (pieces : List (List UInt8)) : Option (List String) :=
  if (Utf8.decode b.toList).isSome && !os.all (isBoundary b) then none
  else pieces.mapM fun bytes => (Utf8.decode bytes).map String.ofList

def offsetWidth (large : Bool) : Nat := if large then 8 else 4

/-- A column of pieces of bytes: its validity, its pieces, and offsets and bytes that they come from. -/
structure Pieces where
  valid : List Bool
  offsets : List Nat
  data : Buffer
  pieces : List (List UInt8)

def piecesColumn? (large : Bool) (p : Parts) : Option (Pieces × Parts) := do
  let (node, p) ← p.node?
  let (bitmap, p) ← p.buffer?
  let (offsets, p) ← p.buffer?
  let (data, p) ← p.buffer?
  let os ← offsets? (offsetWidth large) offsets node.length data.size
  some (⟨← validity? bitmap node, os, data, ← pieces? os data⟩, p)

/-- A column of values of fixed size, read by `read` from its bytes: its validity and values. -/
def fixedColumn? {α : Type} (read : Buffer → Nat → Option (List α)) (p : Parts) :
    Option ((List Bool × List α) × Parts) := do
  let (node, p) ← p.node?
  let (bitmap, p) ← p.buffer?
  let (data, p) ← p.buffer?
  let values ← read data node.length
  some ((← validity? bitmap node, values), p)

/-- A view is sixteen bytes: the length, and then either the bytes themselves or their first four, the number of a
buffer and the place there. -/
def viewSize : Nat := 16

def inlineSize : Nat := 12

def isText (bytes : List UInt8) : Bool := (Utf8.decode bytes).isSome

def isView (text : Bool) (data : List Buffer) (view : Buffer) : Bool :=
  ((do
    let length ← view.nat? 4 0
    if length ≤ inlineSize then
      let bytes ← view.bytes? 4 length
      let rest ← view.bytes? (4 + length) (inlineSize - length)
      some (rest.all (· == 0) && (!text || isText bytes))
    else
      let start ← view.bytes? 4 4
      let b ← data[← view.nat? 4 8]?
      let bytes ← b.bytes? (← view.nat? 4 12) length
      some (bytes.take 4 == start && (!text || isText bytes))) : Option Bool).getD false

def viewColumn? (text : Bool) (p : Parts) : Option (List Bool × Parts) := do
  let (count, p) ← p.viewCount?
  let (bitmap, p) ← p.buffer?
  let (views, p) ← p.buffer?
  let (data, p) ← p.takeBuffers? count
  let (node, p) ← p.node?
  let found ← blocks? viewSize views node.length
  if found.all fun v => isView text data v.toArray then some (← validity? bitmap node, p) else none

/-- All places of a column of nulls say null, even if nothing records it. -/
def saysNull (c : Column) (row : Nat) : Bool :=
  match c with
  | .null _ => true
  | c => c.isNull row

/-- A field of a struct that is never null is so where the struct is there. -/
def coversNulls (valid : List Bool) (f : Field Column) : Bool :=
  f.nullable || (List.range f.content.length).all fun row => !saysNull f.content row || !valid.getD row false

/-- The column of a struct. Where it has fields, they say how long it is. -/
def structColumn? (node : Node) (bitmap : Buffer) (fields : List (Field Column)) : Option (List Bool) := do
  let length := match fields with
    | [] => node.length
    | f :: _ => f.content.length
  let valid ← if node.nulls = 0 then some (List.replicate length true) else bitmap? bitmap node
  if valid.length = length ∧ (fields.all fun f => f.content.length == length && coversNulls valid f) then some valid
  else none

/-- The items of a list that may not be null are not. -/
def keepsItems (item : Field Column) : Bool := item.nullable || !item.content.hasNull

/-- The same for lists of one size, but for lists that are null. -/
def keepsFixedItems (size : Nat) (valid : List Bool) (item : Field Column) : Bool :=
  item.nullable || (List.range (size * valid.length)).all fun i =>
    !item.content.isNull i || !valid.getD (i / size) false

mutual
/-- Reads a column of a type, and after it the columns of its parts. -/
def readColumn? : DataType → Parts → Option (Column × Parts)
  | .null, p => do
    let (node, p) ← p.node?
    if (node.length : Int) = node.nulls then some (.null node.length, p) else none
  | .boolean, p => do
    let ((valid, values), p) ← fixedColumn? bits? p
    some (.boolean (masked valid values), p)
  | .word w, p => do
    let ((valid, values), p) ← fixedColumn? (words? w) p
    some (.word w ((valid.zip values).map fun q => ⟨q.1, q.2⟩), p)
  | .float32, p => do
    let ((valid, words), p) ← fixedColumn? (words? .uint32) p
    some (.float32 (masked valid (words.map fun n => .ofBinary32 (UInt32.ofNat n.toNat))), p)
  | .float64, p => do
    let ((valid, words), p) ← fixedColumn? (words? .uint64) p
    some (.float64 (masked valid (words.map fun n => ⟨UInt64.ofNat n.toNat⟩)), p)
  | .utf8 large, p => do
    let (c, p) ← piecesColumn? large p
    some (.utf8 large (masked c.valid (← texts? c.offsets c.data c.pieces)), p)
  | .binary large, p => do
    let (c, p) ← piecesColumn? large p
    some (.binary large (masked c.valid c.pieces), p)
  | .fixedBinary size, p => do
    let ((valid, pieces), p) ← fixedColumn? (blocks? size) p
    some (.fixedBinary size (masked valid pieces), p)
  | .unread t, p => do
    let ((valid, _), p) ← fixedColumn? (blocks? t.width) p
    some (.unread (.unread t) valid, p)
  | .utf8View, p => do
    let (valid, p) ← viewColumn? true p
    some (.unread .utf8View valid, p)
  | .binaryView, p => do
    let (valid, p) ← viewColumn? false p
    some (.unread .binaryView valid, p)
  | .struct fields, p => do
    let (node, p) ← p.node?
    let (bitmap, p) ← p.buffer?
    let (columns, p) ← readFields? fields p
    some (.struct (← structColumn? node bitmap columns) columns, p)
  | .list large item, p => do
    let (node, p) ← p.node?
    let (bitmap, p) ← p.buffer?
    let (offsets, p) ← p.buffer?
    let (column, p) ← readField? item p
    let os ← offsets? (offsetWidth large) offsets node.length column.content.length
    let valid ← validity? bitmap node
    if keepsItems column then some (.list large valid os column, p) else none
  | .fixedList size item, p => do
    let (node, p) ← p.node?
    let (bitmap, p) ← p.buffer?
    let (column, p) ← readField? item p
    let valid ← validity? bitmap node
    if size * node.length ≤ column.content.length ∧ keepsFixedItems size valid column then
      some (.unread (.fixedList size item) valid, p)
    else none
  | .map form key value, p => do
    let (node, p) ← p.node?
    let (bitmap, p) ← p.buffer?
    let (offsets, p) ← p.buffer?
    let (entries, p) ← p.node?
    let (entryBitmap, p) ← p.buffer?
    let (keys, p) ← readField? key p
    let (items, p) ← readField? value p
    let there ← structColumn? entries entryBitmap [keys, items]
    let os ← offsets? 4 offsets node.length there.length
    let valid ← validity? bitmap node
    if form.nullable || there.all id then some (.map form valid os keys items, p) else none

def readFields? : List (Field DataType) → Parts → Option (List (Field Column) × Parts)
  | [], p => some ([], p)
  | f :: fs, p => do
    let (column, p) ← readField? f p
    let (columns, p) ← readFields? fs p
    some (column :: columns, p)

def readField? : Field DataType → Parts → Option (Field Column × Parts)
  | ⟨name, nullable, type⟩, p => do
    let (c, p) ← readColumn? type p
    some (⟨name, nullable, c⟩, p)
end

end RowStream.Columnar

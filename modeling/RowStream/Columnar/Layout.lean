import RowStream.Columnar.Table

/-! # Layout of messages

Which fields the tables of a message have. A message is read only if every reference in it stays
within its bytes, every number stands at a multiple of its width, and every text is followed by a zero.
-/
namespace RowStream.Columnar.Layout
open RowStream.Text

inductive TableKind
  | message | schema | field | property | encoding | batch | dictionaryBatch | compression
  | integer | unit | bitWidth | decimal | time | timestamp | union | flag | bare
deriving Repr, DecidableEq

inductive FieldKind
  | scalar (width : Nat)
  | text
  | table (kind : TableKind)
  | tables (kind : TableKind)
  | numbers (width : Nat)
  /-- Elements of a size that need no alignment. -/
  | blocks (size : Nat)
  /-- A table of the kind that the field before it names. -/
  | choice (kindOf : Nat → Option TableKind)

def headerKind : Nat → Option TableKind
  | 1 => some .schema
  | 2 => some .dictionaryBatch
  | 3 => some .batch
  | _ => none

def typeKind : Nat → Option TableKind
  | 2 => some .integer
  | 3 | 8 | 11 | 18 => some .unit
  | 7 => some .decimal
  | 9 => some .time
  | 10 => some .timestamp
  | 14 => some .union
  | 15 | 16 => some .bitWidth
  | 17 => some .flag
  | 1 | 4 | 5 | 6 | 12 | 13 | 19 | 20 | 21 | 22 | 23 | 24 | 25 | 26 => some .bare
  | _ => none

def fieldsOf : TableKind → List FieldKind
  | .message => [.scalar 2, .scalar 1, .choice headerKind, .scalar 8, .tables .property]
  | .schema => [.scalar 2, .tables .field, .tables .property, .numbers 8]
  | .field => [.text, .scalar 1, .scalar 1, .choice typeKind, .table .encoding, .tables .field, .tables .property]
  | .property => [.text, .text]
  | .encoding => [.scalar 8, .table .integer, .scalar 1, .scalar 2]
  | .batch => [.scalar 8, .blocks 16, .blocks 16, .table .compression, .numbers 8]
  | .dictionaryBatch => [.scalar 8, .table .batch, .scalar 1]
  | .compression => [.scalar 1, .scalar 1]
  | .integer => [.scalar 4, .scalar 1]
  | .unit => [.scalar 2]
  | .bitWidth => [.scalar 4]
  | .decimal => [.scalar 4, .scalar 4, .scalar 4]
  | .time => [.scalar 2, .scalar 4]
  | .timestamp => [.scalar 2, .text]
  | .union => [.scalar 2, .numbers 4]
  | .flag => [.scalar 1]
  | .bare => []

def holds (b : Buffer) (width place : Nat) : Bool := place % width == 0 && place + width ≤ b.size

def follow? (b : Buffer) (place : Nat) : Option Nat :=
  if holds b 4 place then b.follow? place else none

/-- Number of elements and place of the first one of a vector that stays within the buffer. -/
def vector? (b : Buffer) (place size alignment : Nat) : Option (Nat × Nat) := do
  let start ← follow? b place
  if holds b 4 start then
    let count ← b.nat? 4 start
    if (start + 4) % alignment = 0 ∧ start + 4 + size * count ≤ b.size then some (count, start + 4) else none
  else none

/-- The map of the table at the place stays within the buffer. -/
def hasMap (b : Buffer) (place : Nat) : Bool :=
  ((do
    let back ← if holds b 4 place then b.int? 4 place else none
    let start := (place : Int) - back
    if start < 0 then none
    else
      let start := start.toNat
      let size ← if holds b 2 start then b.nat? 2 start else none
      some (size % 2 == 0 && start + size ≤ b.size)) : Option Bool).getD false

def isText (b : Buffer) (place : Nat) : Bool :=
  ((do
    let (count, start) ← vector? b place 1 1
    let bytes ← b.bytes? start count
    some ((Utf8.decode bytes).isSome && b[start + count]? == some 0)) : Option Bool).getD false

/-- The content of a field of a table; `isTable` tells whether there is a table of a kind at a place. -/
def isContent (isTable : TableKind → Nat → Bool) (t : Table) (index place : Nat) : FieldKind → Bool
  | .scalar width => holds t.buffer width place
  | .text => isText t.buffer place
  | .table kind => (follow? t.buffer place).any (isTable kind)
  | .tables kind =>
    (vector? t.buffer place 4 4).any fun v =>
      (List.range v.1).all fun i => (follow? t.buffer (v.2 + 4 * i)).any (isTable kind)
  | .numbers width => (vector? t.buffer place width width).isSome
  | .blocks size => (vector? t.buffer place size 1).isSome
  | .choice kindOf =>
    match kindOf ((t.natField? (index - 1) 1 0).getD 0) with
    | some kind => (follow? t.buffer place).any (isTable kind)
    | none => true

/-- A choice and the number that names its kind are both there or neither is. -/
def agrees (t : Table) (index : Nat) : FieldKind → Bool
  | .choice _ =>
    ((t.fieldPlace? (index - 1)).map Option.isSome) == ((t.fieldPlace? index).map Option.isSome)
  | _ => true

def isField (isTable : TableKind → Nat → Bool) (t : Table) (index : Nat) (kind : FieldKind) : Bool :=
  agrees t index kind &&
    match t.fieldPlace? index with
    | some (some place) => isContent isTable t index place kind
    | some none => true
    | none => false

/-- A table of the kind is at the place, with no more than so many levels of tables. -/
def isTable (b : Buffer) : Nat → TableKind → Nat → Bool
  | 0, _, _ => false
  | levels + 1, kind, place =>
    hasMap b place &&
      (fieldsOf kind).zipIdx.all fun f => isField (isTable b levels) ⟨b, place⟩ f.2 f.1

def maxLevels : Nat := 64

def isMessage (b : Buffer) : Bool := (follow? b 0).any (isTable b maxLevels .message)

end RowStream.Columnar.Layout

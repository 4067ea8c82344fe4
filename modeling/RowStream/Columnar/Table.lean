import RowStream.Text.Utf8

/-! # Tables in a buffer

A table is a place in a buffer with a map from field numbers to places; vectors and strings are
counted and found by relative offsets. Every access that leaves the buffer fails. -/
namespace RowStream.Columnar
open RowStream.Text

abbrev Buffer := Array UInt8

namespace Buffer

/-- The number that `n` bytes from a place on spell, the lowest first. -/
def nat? (b : Buffer) : Nat → Nat → Option Nat
  | 0, _ => some 0
  | n + 1, place => do
    let low ← b[place]?
    let high ← nat? b n (place + 1)
    some (low.toNat + 256 * high)

def int? (b : Buffer) (n place : Nat) : Option Int := do
  let v ← b.nat? n place
  some (if v < Nat.pow 2 (8 * n - 1) then (v : Int) else (v : Int) - (Nat.pow 2 (8 * n) : Nat))

def bytes? (b : Buffer) (place count : Nat) : Option (List UInt8) :=
  if place + count ≤ b.size then some (b.extract place (place + count)).toList else none

/-- The place that the relative offset at a place names. -/
def follow? (b : Buffer) (place : Nat) : Option Nat := do
  some (place + (← b.nat? 4 place))

end Buffer

structure Table where
  buffer : Buffer
  place : Nat

namespace Table

def root? (b : Buffer) : Option Table := do
  some ⟨b, ← b.follow? 0⟩

/-- The place of a field, if the table has it; `none` inside means that it is left out. -/
def fieldPlace? (t : Table) (index : Nat) : Option (Option Nat) := do
  let back ← t.buffer.int? 4 t.place
  let start := (t.place : Int) - back
  if start < 0 then none
  else
    let size ← t.buffer.nat? 2 start.toNat
    if size < 4 + 2 * index + 2 then some none
    else
      let offset ← t.buffer.nat? 2 (start.toNat + 4 + 2 * index)
      some (if offset = 0 then none else some (t.place + offset))

/-- A field that may be left out, read by `read` at its place. -/
def optional? {α : Type} (t : Table) (index : Nat) (read : Nat → Option α) : Option (Option α) := do
  match ← t.fieldPlace? index with
  | none => some none
  | some place => (read place).map some

def natField? (t : Table) (index width default : Nat) : Option Nat :=
  (t.optional? index (t.buffer.nat? width)).map (·.getD default)

def intField? (t : Table) (index width : Nat) (default : Int) : Option Int :=
  (t.optional? index (t.buffer.int? width)).map (·.getD default)

def boolField? (t : Table) (index : Nat) : Option Bool := (t.natField? index 1 0).map (· != 0)

def tableField? (t : Table) (index : Nat) : Option (Option Table) :=
  t.optional? index fun place => do some ⟨t.buffer, ← t.buffer.follow? place⟩

def vectorField? (t : Table) (index : Nat) : Option (Option (Nat × Nat)) :=
  t.optional? index fun place => do
    let start ← t.buffer.follow? place
    some (← t.buffer.nat? 4 start, start + 4)

def textField? (t : Table) (index : Nat) : Option (Option String) := do
  match ← t.vectorField? index with
  | none => some none
  | some (count, start) =>
    let bytes ← t.buffer.bytes? start count
    (Utf8.decode bytes).map fun cs => some (String.ofList cs)

/-- The tables of a vector of references. A vector cannot have more of them than it has bytes. -/
def tablesField? (t : Table) (index : Nat) : Option (List Table) := do
  match ← t.vectorField? index with
  | none => some []
  | some (count, start) =>
    if t.buffer.size < start + 4 * count then none
    else (List.range count).mapM fun i => do some ⟨t.buffer, ← t.buffer.follow? (start + 4 * i)⟩

def numbersField? (t : Table) (index : Nat) : Option (List Nat) := do
  match ← t.vectorField? index with
  | none => some []
  | some (count, start) =>
    if t.buffer.size < start + 8 * count then none
    else (List.range count).mapM fun i => t.buffer.nat? 8 (start + 8 * i)

def pairsField? (t : Table) (index : Nat) : Option (Option (List (Nat × Int))) := do
  match ← t.vectorField? index with
  | none => some none
  | some (count, start) =>
    if t.buffer.size < start + 16 * count then none
    else do
      let pairs ← (List.range count).mapM fun i => do
        some (← t.buffer.nat? 8 (start + 16 * i), ← t.buffer.int? 8 (start + 16 * i + 8))
      some (some pairs)

end Table
end RowStream.Columnar

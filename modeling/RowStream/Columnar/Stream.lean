import RowStream.Error
import RowStream.Columnar.Wire
import RowStream.Columnar.Layout

/-! # Streams of batches -/
namespace RowStream.Columnar

structure Message where
  kind : Nat
  header : Option Table
  body : Buffer

def schemaKind : Nat := 1
def batchKind : Nat := 3

def littleEndian32 (b0 b1 b2 b3 : UInt8) : Nat :=
  b0.toNat + 256 * (b1.toNat + 256 * (b2.toNat + 256 * b3.toNat))

def continuation : Nat := 0xFFFFFFFF

/-- The length of the next message's description, and what follows; `none` inside is the end. Where
four bytes are not left the stream ends too. -/
def messageLength? (bs : List UInt8) : Option (Option (Nat × List UInt8)) :=
  let told (n : Nat) (rest : List UInt8) : Option (Option (Nat × List UInt8)) :=
    if n = 0 then some none else if 0x80000000 ≤ n then none else some (some (n, rest))
  match bs with
  | b0 :: b1 :: b2 :: b3 :: rest =>
    let n := littleEndian32 b0 b1 b2 b3
    if n = continuation then
      match rest with
      | b0 :: b1 :: b2 :: b3 :: rest => told (littleEndian32 b0 b1 b2 b3) rest
      | _ => none
    else told n rest
  | _ => some none

theorem messageLength?_length {bs rest : List UInt8} {n : Nat}
    (h : messageLength? bs = some (some (n, rest))) : rest.length < bs.length ∧ 0 < n := by
  unfold messageLength? at h
  simp only at h
  split at h
  · split at h
    · split at h
      · split at h
        · simp at h
        · split at h
          · simp at h
          · cases h
            simp only [List.length_cons]
            omega
      · simp at h
    · split at h
      · simp at h
      · split at h
        · simp at h
        · cases h
          simp only [List.length_cons]
          omega
  · simp at h

def messageOf? (n : Nat) (bs : List UInt8) : Option (Message × List UInt8) := do
  let description := (bs.take n).toArray
  if description.size < n ∨ !Layout.isMessage description then none
  else
    let t ← Table.root? description
    let kind ← t.natField? 1 1 0
    let header ← t.tableField? 2
    let size ← t.intField? 3 8 0
    let body := ((bs.drop n).take size.toNat).toArray
    if size < 0 ∨ body.size < size.toNat then none
    else some (⟨kind, header, body⟩, bs.drop (n + size.toNat))

theorem messageOf?_length {n : Nat} {bs rest : List UInt8} {m : Message}
    (h : messageOf? n bs = some (m, rest)) : rest.length ≤ bs.length := by
  simp only [messageOf?, Option.bind_eq_bind, Option.ite_none_left_eq_some, Option.bind_eq_some_iff] at h
  obtain ⟨-, t, -, k, -, hd, -, s, -, -, h⟩ := h
  cases h
  simp

/-- The next message and what follows it; `none` inside is the end of the stream. -/
def message? (bs : List UInt8) : Option (Option (Message × List UInt8)) :=
  match messageLength? bs with
  | none => none
  | some none => some none
  | some (some (n, rest)) => (messageOf? n rest).map some

theorem message?_length {bs rest : List UInt8} {m : Message} (h : message? bs = some (some (m, rest))) :
    rest.length < bs.length := by
  unfold message? at h
  split at h
  · simp at h
  · simp at h
  · rename_i n r hn
    simp only [Option.map_eq_some_iff, Option.some.injEq, exists_eq_right] at h
    have := (messageLength?_length hn).1
    have := messageOf?_length h
    omega

def schema? (bs : List UInt8) : Option (List (Field DataType) × List UInt8) := do
  let (m, rest) ← (← message? bs)
  if m.kind ≠ schemaKind then none
  else
    let fields ← (← (← m.header).tablesField? 1).mapM (fieldOf? maxNesting)
    some (fields, rest)

def codecCount : Nat := 2

/-- The description of a batch together with its body. -/
def partsOf? (t : Table) (body : Buffer) : Option Parts := do
  let nodes ← (← t.pairsField? 1)
  let buffers ← (← t.pairsField? 2)
  let compression ← t.tableField? 3
  let codec ← match compression with
    | some c => c.natField? 0 1 0
    | none => some 0
  if codecCount ≤ codec ∨ (buffers.any fun b => b.2 < 0) then none
  else
    some ⟨body, compression.isSome, nodes.map fun n => ⟨n.1, n.2⟩, buffers.map fun b => (b.1, b.2.toNat),
      ← t.numbersField? 4⟩

/-- The batch of a message. Columns are as long as the batch and have nulls only where they may. -/
def batch? (schema : List (Field DataType)) (m : Message) : Option Batch := do
  if m.kind ≠ batchKind then none
  else
    let t ← m.header
    let rows ← t.natField? 0 8 0
    let parts ← partsOf? t m.body
    let (columns, _) ← readFields? schema parts
    if columns.all fun f => f.content.length == rows && (f.nullable || !f.content.hasNull) then
      some ⟨rows, columns⟩
    else none

def batches? (schema : List (Field DataType)) (bs : List UInt8) : Option (List Batch) :=
  match _h : message? bs with
  | none => none
  | some none => some []
  | some (some (m, rest)) =>
    match batch? schema m, batches? schema rest with
    | some b, some more => some (b :: more)
    | _, _ => none
termination_by bs.length
decreasing_by exact message?_length _h

/-- The batches of a stream; no bytes at all are no batches. -/
def readStream (bytes : List UInt8) : Result (List Batch) :=
  if bytes.isEmpty then .ok []
  else match schema? bytes with
    | none => .error (.decode "Failed to create Arrow IPC reader: no schema")
    | some (schema, rest) =>
      match batches? schema rest with
      | some bs => .ok bs
      | none => .error (.decode "Failed to read Arrow batches: the stream is damaged")

end RowStream.Columnar

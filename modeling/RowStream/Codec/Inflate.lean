import RowStream.Codec.Words
import RowStream.Codec.Huffman

/-! # Inflating deflated data -/
namespace RowStream.Codec.Inflate

abbrev Bits := List Bool

/-- Smallest value and number of extra bits of each length symbol. -/
def lengths : List (Nat × Nat) :=
  [(3, 0), (4, 0), (5, 0), (6, 0), (7, 0), (8, 0), (9, 0), (10, 0), (11, 1), (13, 1), (15, 1), (17, 1),
    (19, 2), (23, 2), (27, 2), (31, 2), (35, 3), (43, 3), (51, 3), (59, 3), (67, 4), (83, 4), (99, 4),
    (115, 4), (131, 5), (163, 5), (195, 5), (227, 5), (258, 0)]

def distances : List (Nat × Nat) :=
  [(1, 0), (2, 0), (3, 0), (4, 0), (5, 1), (7, 1), (9, 2), (13, 2), (17, 3), (25, 3), (33, 4), (49, 4),
    (65, 5), (97, 5), (129, 6), (193, 6), (257, 7), (385, 7), (513, 8), (769, 8), (1025, 9), (1537, 9),
    (2049, 10), (3073, 10), (4097, 11), (6145, 11), (8193, 12), (12289, 12), (16385, 13), (24577, 13)]

/-- A value of a table: that of the symbol plus its extra bits. -/
def ranged? (table : List (Nat × Nat)) (symbol : Nat) (bits : Bits) : Option (Nat × Bits) :=
  match table[symbol]? with
  | some (base, extra) => (number? extra bits).map fun p => (base + p.1, p.2)
  | none => none

theorem ranged?_length {table : List (Nat × Nat)} {symbol v : Nat} {bits rest : Bits}
    (h : ranged? table symbol bits = some (v, rest)) : rest.length ≤ bits.length := by
  unfold ranged? at h
  split at h
  · simp only [Option.map_eq_some_iff, Prod.mk.injEq] at h
    obtain ⟨p, hp, -, rfl⟩ := h
    have := number?_length hp
    omega
  · simp at h

def copy? (dist : CodeTree) (symbol : Nat) (bits : Bits) : Option ((Nat × Nat) × Bits) :=
  match ranged? lengths symbol bits with
  | some (length, bits) =>
    match dist.read? bits with
    | some (symbol, bits) => (ranged? distances symbol bits).map fun p => ((length, p.1), p.2)
    | none => none
  | none => none

theorem copy?_length {dist : CodeTree} {symbol : Nat} {bits rest : Bits} {c : Nat × Nat}
    (h : copy? dist symbol bits = some (c, rest)) : rest.length ≤ bits.length := by
  unfold copy? at h
  split at h
  · rename_i length bits₁ h₁
    split at h
    · rename_i s bits₂ h₂
      simp only [Option.map_eq_some_iff, Prod.mk.injEq] at h
      obtain ⟨p, hp, -, rfl⟩ := h
      have := ranged?_length h₁
      have := CodeTree.read?_length h₂
      have := ranged?_length hp
      omega
    · simp at h
  · simp at h

/-- The byte `distance` back. Before the first byte there are zeros. -/
def byteBack (out : Array UInt8) (distance : Nat) : UInt8 :=
  if distance ≤ out.size then out.getD (out.size - distance) 0 else 0

/-- Appends bytes from `distance` back, one after another, so a copy may repeat itself. -/
def repeatBack (distance : Nat) : Nat → Array UInt8 → Array UInt8
  | 0, out => out
  | n + 1, out => repeatBack distance n (out.push (byteBack out distance))

inductive Action | byte (b : UInt8) | stop | copy (length distance : Nat) deriving Repr, DecidableEq

def endMark : Nat := 256

def action? (literal dist : CodeTree) (bits : Bits) : Option (Action × Bits) :=
  match literal.read? bits with
  | none => none
  | some (s, rest) =>
    if s < endMark then some (.byte (UInt8.ofNat s), rest)
    else if s = endMark then some (.stop, rest)
    else (copy? dist (s - endMark - 1) rest).map fun p => (.copy p.1.1 p.1.2, p.2)

theorem action?_length {literal dist : CodeTree} {bits rest : Bits} {a : Action}
    (h : action? literal dist bits = some (a, rest)) : rest.length < bits.length := by
  unfold action? at h
  split at h
  · simp at h
  · rename_i s r hr
    have := CodeTree.read?_length hr
    split at h
    · cases h
      exact this
    · split at h
      · cases h
        exact this
      · simp only [Option.map_eq_some_iff, Prod.mk.injEq] at h
        obtain ⟨p, hp, -, rfl⟩ := h
        have := copy?_length hp
        omega

def actions (literal dist : CodeTree) (bits : Bits) (out : Array UInt8) : Option (Array UInt8 × Bits) :=
  match _h : action? literal dist bits with
  | none => none
  | some (.byte b, rest) => actions literal dist rest (out.push b)
  | some (.stop, rest) => some (out, rest)
  | some (.copy length distance, rest) => actions literal dist rest (repeatBack distance length out)
termination_by bits.length
decreasing_by all_goals exact action?_length _h

def fixedLengths : List Nat :=
  List.replicate 144 8 ++ List.replicate 112 9 ++ List.replicate 24 7 ++ List.replicate 8 8

/-- The order in which the lengths of the code for lengths are written. -/
def lengthOrder : List Nat := [16, 17, 18, 0, 8, 7, 9, 6, 10, 5, 11, 4, 12, 3, 13, 2, 14, 1, 15]

def numbers? (width : Nat) : Nat → Bits → Option (List Nat × Bits)
  | 0, bits => some ([], bits)
  | n + 1, bits => do
    let (v, bits) ← number? width bits
    let (vs, bits) ← numbers? width n bits
    some (v :: vs, bits)

/-- What a symbol of the length code adds: a length of its own, the last length again, or zeros. -/
def lengthRun? (symbol : Nat) (done : List Nat) (bits : Bits) : Option (List Nat × Bits) :=
  if symbol < 16 then some ([symbol], bits)
  else if symbol = 16 then
    match done with
    | last :: _ => (number? 2 bits).map fun p => (List.replicate (3 + p.1) last, p.2)
    | [] => none
  else if symbol = 17 then (number? 3 bits).map fun p => (List.replicate (3 + p.1) 0, p.2)
  else (number? 7 bits).map fun p => (List.replicate (11 + p.1) 0, p.2)

theorem lengthRun?_length {symbol : Nat} {done run : List Nat} {bits rest : Bits}
    (h : lengthRun? symbol done bits = some (run, rest)) : rest.length ≤ bits.length := by
  have number {n k x : Nat} (e : (number? n bits).map (fun p => (List.replicate (k + p.1) x, p.2)) =
      some (run, rest)) : rest.length ≤ bits.length := by
    simp only [Option.map_eq_some_iff, Prod.mk.injEq] at e
    obtain ⟨p, hp, -, rfl⟩ := e
    have := number?_length hp
    omega
  unfold lengthRun? at h
  split at h
  · cases h
    exact Nat.le_refl _
  · split at h
    · split at h
      · exact number h
      · simp at h
    · split at h
      · exact number h
      · exact number h

/-- Exactly `count` code lengths; `done` has the last one first. -/
def codeLengths (tree : CodeTree) (count : Nat) (done : List Nat) (bits : Bits) : Option (List Nat × Bits) :=
  if done.length = count then some (done.reverse, bits)
  else if count < done.length then none
  else match _h : tree.read? bits with
    | none => none
    | some (s, rest) =>
      match _h' : lengthRun? s done rest with
      | none => none
      | some (run, rest) => codeLengths tree count (run ++ done) rest
termination_by bits.length
decreasing_by
  have := CodeTree.read?_length _h
  have := lengthRun?_length _h'
  omega

def dynamicBlock (bits : Bits) (out : Array UInt8) : Option (Array UInt8 × Bits) := do
  let (literals, bits) ← number? 5 bits
  let (dists, bits) ← number? 5 bits
  let (order, bits) ← number? 4 bits
  let (widths, bits) ← numbers? 3 (order + 4) bits
  if 29 < literals ∨ 29 < dists then none
  else
    let listed := lengthOrder.zip widths
    let tree ← CodeTree.ofLengths? false ((List.range 19).map fun s => ((listed.find? (·.1 == s)).map (·.2)).getD 0)
    let (all, bits) ← codeLengths tree (literals + 257 + (dists + 1)) [] bits
    let literal ← CodeTree.ofLengths? true (all.take (literals + 257))
    let dist ← CodeTree.ofLengths? true (all.drop (literals + 257))
    actions literal dist bits out

def fixedBlock (bits : Bits) (out : Array UInt8) : Option (Array UInt8 × Bits) := do
  actions (← CodeTree.ofLengths? false fixedLengths) (← CodeTree.ofLengths? false (List.replicate 32 5)) bits out

def align (bits : Bits) : Bits := bits.drop (bits.length % 8)

/-- A block of bytes as they are, after their number and its complement. -/
def storedBlock (bits : Bits) (out : Array UInt8) : Option (Array UInt8 × Bits) := do
  let (length, bits) ← number? 16 (align bits)
  let (complement, bits) ← number? 16 bits
  if length + complement ≠ 65535 then none
  else
    let (bytes, bits) ← numbers? 8 length bits
    some (bytes.foldl (fun out b => out.push (UInt8.ofNat b)) out, bits)

def block (bits : Bits) (out : Array UInt8) : Option (Bool × Array UInt8 × Bits) := do
  let (last, bits) ← number? 1 bits
  let (kind, bits) ← number? 2 bits
  let (out, bits) ←
    if kind = 0 then storedBlock bits out
    else if kind = 1 then fixedBlock bits out
    else if kind = 2 then dynamicBlock bits out
    else none
  some (last == 1, out, bits)

def blocks (bits : Bits) (out : Array UInt8) : Option (Array UInt8 × Bits) :=
  match block bits out with
  | none => none
  | some (true, out, rest) => some (out, rest)
  | some (false, out, rest) => if rest.length < bits.length then blocks rest out else none
termination_by bits.length

/-- The bytes that deflated data stands for, and the number of bytes after it. -/
def inflate? (bytes : List UInt8) : Option (List UInt8 × Nat) := do
  let (out, rest) ← blocks (bitsOf bytes) #[]
  some (out.toList, rest.length / 8)

end RowStream.Codec.Inflate

import RowStream.Codec.Words

/-! # LZ4 frames -/
namespace RowStream.Codec.Lz4

def prime1 : UInt32 := 0x9E3779B1
def prime2 : UInt32 := 0x85EBCA77
def prime3 : UInt32 := 0xC2B2AE3D
def prime4 : UInt32 := 0x27D4EB2F
def prime5 : UInt32 := 0x165667B1

def rotate (x : UInt32) (n : UInt32) : UInt32 := (x <<< n) ||| (x >>> (32 - n))

def word32 (bs : List UInt8) : UInt32 := UInt32.ofNat (littleEndian (bs.take 4))

def round (acc lane : UInt32) : UInt32 := rotate (acc + lane * prime2) 13 * prime1

/-- The four lanes after all stripes of sixteen bytes, and the bytes that fill no stripe. -/
def stripes : UInt32 × UInt32 × UInt32 × UInt32 → List UInt8 →
    (UInt32 × UInt32 × UInt32 × UInt32) × List UInt8
  | (p, q, r, s), b0 :: b1 :: b2 :: b3 :: b4 :: b5 :: b6 :: b7 :: b8 :: b9 :: b10 :: b11 :: b12 :: b13 ::
      b14 :: b15 :: rest =>
    stripes (round p (word32 [b0, b1, b2, b3]), round q (word32 [b4, b5, b6, b7]),
      round r (word32 [b8, b9, b10, b11]), round s (word32 [b12, b13, b14, b15])) rest
  | lanes, rest => (lanes, rest)

/-- Takes in the bytes after the last stripe: words, then single bytes. -/
def remainder (h : UInt32) : List UInt8 → UInt32
  | b0 :: b1 :: b2 :: b3 :: rest => remainder (rotate (h + word32 [b0, b1, b2, b3] * prime3) 17 * prime4) rest
  | b :: rest => remainder (rotate (h + b.toUInt32 * prime5) 11 * prime1) rest
  | [] => h

def avalanche (h : UInt32) : UInt32 :=
  let h := (h ^^^ (h >>> 15)) * prime2
  let h := (h ^^^ (h >>> 13)) * prime3
  h ^^^ (h >>> 16)

def hash (bytes : List UInt8) : Nat :=
  let ((p, q, r, s), rest) := stripes (prime1 + prime2, prime2, 0, 0 - prime1) bytes
  let start := if 16 ≤ bytes.length then rotate p 1 + rotate q 7 + rotate r 12 + rotate s 18 else prime5
  (avalanche (remainder (start + UInt32.ofNat bytes.length) rest)).toNat

def lengthTail? (n : Nat) : List UInt8 → Option (Nat × List UInt8)
  | [] => none
  | b :: bs => if b = 255 then lengthTail? (n + 255) bs else some (n + b.toNat, bs)

/-- A length of four bits that goes on when they are all set. -/
def length? (nibble : Nat) (bs : List UInt8) : Option (Nat × List UInt8) :=
  if nibble = 15 then lengthTail? 15 bs else some (nibble, bs)

theorem lengthTail?_length {n v : Nat} {bs rest : List UInt8} (h : lengthTail? n bs = some (v, rest)) :
    rest.length ≤ bs.length := by
  induction bs generalizing n with
  | nil => simp [lengthTail?] at h
  | cons b bs ih =>
    simp only [lengthTail?] at h
    split at h
    · have := ih h
      simp only [List.length_cons]
      omega
    · cases h
      simp

theorem length?_length {n v : Nat} {bs rest : List UInt8} (h : length? n bs = some (v, rest)) :
    rest.length ≤ bs.length := by
  unfold length? at h
  split at h
  · exact lengthTail?_length h
  · cases h
    exact Nat.le_refl _

theorem takeBytes?_length {n : Nat} {bs taken rest : List UInt8} (h : takeBytes? n bs = some (taken, rest)) :
    rest.length ≤ bs.length := by
  simp only [takeBytes?, Option.ite_none_right_eq_some, Option.some.injEq, Prod.mk.injEq] at h
  rw [← h.2.2, List.length_drop]
  omega

theorem word?_length {n v : Nat} {bs rest : List UInt8} (h : word? n bs = some (v, rest)) :
    rest.length ≤ bs.length := by
  simp only [word?, Option.map_eq_some_iff, Prod.mk.injEq] at h
  obtain ⟨p, hp, -, rfl⟩ := h
  exact takeBytes?_length hp

/-- Literals and copies by turns; the block ends after literals. Copies reach back into `out` as
far as `base`, and the output has at most `limit` bytes. -/
def sequences (base limit : Nat) (bs : List UInt8) (out : Array UInt8) : Option (Array UInt8) :=
  match bs with
  | [] => none
  | token :: bs =>
    match _h₁ : length? (token.toNat / 16) bs with
    | none => none
    | some (literals, bs₁) =>
      match _h₂ : takeBytes? literals bs₁ with
      | none => none
      | some (bytes, bs₂) =>
        let out := bytes.foldl Array.push out
        if limit < out.size then none
        else if bs₂.isEmpty then some out
        else match _h₃ : word? 2 bs₂ with
          | none => none
          | some (distance, bs₃) =>
            match _h₄ : length? (token.toNat % 16) bs₃ with
            | none => none
            | some (extra, bs₄) =>
              if distance = 0 ∨ out.size - base < distance ∨ limit < out.size + extra + 4 then none
              else sequences base limit bs₄ (repeatBack distance (extra + 4) out)
termination_by bs.length
decreasing_by
  have := length?_length _h₁
  have := takeBytes?_length _h₂
  have := word?_length _h₃
  have := length?_length _h₄
  simp only [List.length_cons]
  omega
where
  /-- Appends bytes from `distance` back, one after another. -/
  repeatBack (distance : Nat) : Nat → Array UInt8 → Array UInt8
    | 0, out => out
    | n + 1, out => repeatBack distance n (out.push (out.getD (out.size - distance) 0))

def magic : List UInt8 := [0x04, 0x22, 0x4D, 0x18]

structure Header where
  linked : Bool
  blockChecksums : Bool
  contentChecksum : Bool
  blockLimit : Nat
  contentSize : Option Nat
deriving Repr, DecidableEq

/-- Reads the header after the magic bytes. Frames that need a dictionary are refused. -/
def header? (bs : List UInt8) : Option (Header × List UInt8) := do
  let (flags, bs₁) ← word? 1 bs
  let (sizes, bs₂) ← word? 1 bs₁
  if flags / 64 ≠ 1 ∨ flags.testBit 1 ∨ flags.testBit 0 ∨ 128 ≤ sizes ∨ sizes % 16 ≠ 0 ∨ sizes / 16 < 4 then none
  else
    let (contentSize, bs₃) ← if flags.testBit 3 then (word? 8 bs₂).map fun p => (some p.1, p.2) else some (none, bs₂)
    let (check, bs₄) ← word? 1 bs₃
    if check ≠ hash (bs.take (bs.length - bs₃.length)) / 256 % 256 then none
    else
      some ({ linked := !flags.testBit 5
              blockChecksums := flags.testBit 4
              contentChecksum := flags.testBit 2
              blockLimit := Nat.pow 2 (8 + 2 * (sizes / 16))
              contentSize }, bs₄)

def skipChecksum? (present : Bool) (data bs : List UInt8) : Option (List UInt8) :=
  if present then
    match word? 4 bs with
    | some (check, rest) => if check = hash data then some rest else none
    | none => none
  else some bs

/-- Size and checksum of the content have to be those that are told. -/
def finish? (h : Header) (bs : List UInt8) (out : Array UInt8) : Option (Array UInt8) := do
  if h.contentSize.getD out.size ≠ out.size then none
  else
    let _ ← skipChecksum? h.contentChecksum out.toList bs
    some out

/-- How much of earlier output copies in linked blocks may need. -/
def windowSize : Nat := 65536

/-- The place of linked blocks in a buffer of two blocks and a window: where the next one begins,
and where a window that was left behind begins and how much of it is still needed. -/
structure Placement where
  start : Nat := 0
  windowStart : Nat := 0
  windowLength : Nat := 0
deriving Repr, DecidableEq

namespace Placement

/-- Begins again at the front where a block may not fit, and gives up what of the window left behind
is out of reach. -/
def next (limit : Nat) (p : Placement) : Placement :=
  if 2 * limit + windowSize < p.start + limit then ⟨0, p.start - windowSize, windowSize⟩
  else
    let given := min p.windowLength (p.start + p.windowLength - windowSize)
    ⟨p.start, p.windowStart + given, p.windowLength - given⟩

/-- How much output the block may have: up to the window, or a block's limit where there is none. -/
def room (limit : Nat) (p : Placement) : Nat :=
  if p.windowLength = 0 then limit else p.windowStart - p.start

end Placement

/-- The output with the content of one block. Copies reach back before the block only in linked
blocks. -/
def blockContent? (linked compressed : Bool) (room : Nat) (data : List UInt8) (out : Array UInt8) :
    Option (Array UInt8) :=
  if compressed then
    let base := if linked then out.size - windowSize else out.size
    sequences base (out.size + room) data out
  else some (data.foldl Array.push out)

/-- Blocks up to the end mark, or as far as there is a size to read. A block without content ends
the data too. -/
def blocks? (h : Header) (place : Placement) (bs : List UInt8) (out : Array UInt8) : Option (Array UInt8) :=
  match bs with
  | b0 :: b1 :: b2 :: b3 :: rest =>
    let size := littleEndian [b0, b1, b2, b3]
    let place := if h.linked then place.next h.blockLimit else {}
    if size = 0 then finish? h rest out
    else
      let length := size % 0x80000000
      if h.blockLimit < length then none
      else match _h₁ : takeBytes? length rest with
        | none => none
        | some (data, after) =>
          match _h₂ : skipChecksum? h.blockChecksums data after with
          | none => none
          | some after =>
            match blockContent? h.linked (size < 0x80000000) (place.room h.blockLimit) data out with
            | none => none
            | some next =>
              if next.size = out.size then some out
              else blocks? h { place with start := place.start + (next.size - out.size) } after next
  | _ => some out
termination_by bs.length
decreasing_by
  have := takeBytes?_length _h₁
  unfold skipChecksum? at _h₂
  split at _h₂
  · split at _h₂
    · rename_i hw
      split at _h₂
      · cases _h₂
        have := word?_length hw
        simp only [List.length_cons]
        omega
      · simp at _h₂
    · simp at _h₂
  · cases _h₂
    simp only [List.length_cons]
    omega

/-- The content of the first frame; what follows does not matter. -/
def read? (bytes : List UInt8) : Option (List UInt8) := do
  let (h, rest) ← header? (bytes.drop magic.length)
  (blocks? h {} rest #[]).map Array.toList

end RowStream.Codec.Lz4

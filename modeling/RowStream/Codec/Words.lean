/-! # Numbers in byte and bit streams -/
namespace RowStream.Codec

def littleEndian : List UInt8 → Nat
  | [] => 0
  | b :: bs => b.toNat + 256 * littleEndian bs

/-- The first `n` bytes and the rest, if there are as many. -/
def takeBytes? (n : Nat) (bs : List UInt8) : Option (List UInt8 × List UInt8) :=
  let taken := bs.take n
  if taken.length = n then some (taken, bs.drop n) else none

def word? (n : Nat) (bs : List UInt8) : Option (Nat × List UInt8) :=
  (takeBytes? n bs).map fun p => (littleEndian p.1, p.2)

def byteBits (b : UInt8) : List Bool := (List.range 8).map b.toNat.testBit

def bitsOf (bs : List UInt8) : List Bool := bs.flatMap byteBits

def number? : Nat → List Bool → Option (Nat × List Bool)
  | 0, bits => some (0, bits)
  | _ + 1, [] => none
  | n + 1, b :: bits => (number? n bits).map fun p => (b.toNat + 2 * p.1, p.2)

theorem number?_length {n v : Nat} {bits rest : List Bool} (h : number? n bits = some (v, rest)) :
    rest.length + n = bits.length := by
  induction n generalizing bits v with
  | zero => simp_all [number?]
  | succ n ih =>
    cases bits with
    | nil => simp [number?] at h
    | cons b bits =>
      simp only [number?, Option.map_eq_some_iff, Prod.mk.injEq] at h
      obtain ⟨p, hp, -, rfl⟩ := h
      have := ih hp
      simp only [List.length_cons]
      omega

end RowStream.Codec

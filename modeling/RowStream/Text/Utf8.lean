/-! # Reading UTF-8 -/
namespace RowStream.Text.Utf8

/-- What the first bytes are: a character and the number of its bytes, or a broken piece with the
number of bytes that could have begun a character. -/
inductive Lead | char (c : Char) (size : Nat) | broken (size : Nat) deriving Repr, DecidableEq

def isTail (b : UInt8) : Bool := 0x80 ≤ b && b ≤ 0xBF

/-- The range of the second byte after a first byte of a sequence of three or four. -/
def secondRange (first : UInt8) : UInt8 × UInt8 :=
  if first = 0xE0 then (0xA0, 0xBF)
  else if first = 0xED then (0x80, 0x9F)
  else if first = 0xF0 then (0x90, 0xBF)
  else if first = 0xF4 then (0x80, 0x8F)
  else (0x80, 0xBF)

def tailBits (b : UInt8) : Nat := b.toNat % 64

def lead (a : UInt8) (rest : List UInt8) : Lead :=
  if a < 0x80 then .char (Char.ofNat a.toNat) 1
  else if 0xC2 ≤ a && a ≤ 0xDF then
    match rest with
    | b :: _ => if isTail b then .char (Char.ofNat (a.toNat % 32 * 64 + tailBits b)) 2 else .broken 1
    | [] => .broken 1
  else if 0xE0 ≤ a && a ≤ 0xF4 then
    match rest with
    | b :: rest =>
      let range := secondRange a
      if range.1 ≤ b && b ≤ range.2 then
        match rest with
        | c :: rest =>
          if isTail c then
            if a < 0xF0 then
              .char (Char.ofNat ((a.toNat % 16 * 64 + tailBits b) * 64 + tailBits c)) 3
            else match rest with
              | d :: _ =>
                if isTail d then
                  .char (Char.ofNat (((a.toNat % 8 * 64 + tailBits b) * 64 + tailBits c) * 64 + tailBits d)) 4
                else .broken 3
              | [] => .broken 3
          else .broken 2
        | [] => .broken 2
      else .broken 1
    | [] => .broken 1
  else .broken 1

def decode (bytes : List UInt8) : Option (List Char) :=
  match bytes with
  | [] => some []
  | a :: rest =>
    match lead a rest with
    | .char c size => (decode (rest.drop (size - 1))).map (c :: ·)
    | .broken _ => none
termination_by bytes.length
decreasing_by rw [List.length_drop, List.length_cons]; omega

/-- The characters, each longest broken piece replaced by U+FFFD. -/
def decodeLossy (bytes : List UInt8) : List Char :=
  match bytes with
  | [] => []
  | a :: rest =>
    match lead a rest with
    | .char c size => c :: decodeLossy (rest.drop (size - 1))
    | .broken size => '\uFFFD' :: decodeLossy (rest.drop (size - 1))
termination_by bytes.length
decreasing_by all_goals (rw [List.length_drop, List.length_cons]; omega)

def encodeChar (c : Char) : List UInt8 :=
  let n := c.toNat
  if n < 0x80 then [UInt8.ofNat n]
  else if n < 0x800 then [UInt8.ofNat (0xC0 + n / 64), UInt8.ofNat (0x80 + n % 64)]
  else if n < 0x10000 then
    [UInt8.ofNat (0xE0 + n / 4096), UInt8.ofNat (0x80 + n / 64 % 64), UInt8.ofNat (0x80 + n % 64)]
  else
    [UInt8.ofNat (0xF0 + n / 262144), UInt8.ofNat (0x80 + n / 4096 % 64),
      UInt8.ofNat (0x80 + n / 64 % 64), UInt8.ofNat (0x80 + n % 64)]

def encode (cs : List Char) : List UInt8 := cs.flatMap encodeChar

def width (c : Char) : Nat := (encodeChar c).length

end RowStream.Text.Utf8

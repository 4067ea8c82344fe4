import RowStream.Codec.Inflate

/-! # Gzip files -/
namespace RowStream.Codec.Gzip

def crcStep (c : UInt32) : UInt32 := if c % 2 = 1 then (c / 2) ^^^ 0xEDB88320 else c / 2

def crcByte (c : UInt32) (b : UInt8) : UInt32 :=
  let c := c ^^^ b.toUInt32
  crcStep (crcStep (crcStep (crcStep (crcStep (crcStep (crcStep (crcStep c)))))))

/-- The checksum of bytes: the reflected cyclic redundancy check of 32 bits. -/
def crc32 (bytes : List UInt8) : Nat := ((bytes.foldl crcByte 0xFFFFFFFF) ^^^ 0xFFFFFFFF).toNat

def magic : List UInt8 := [0x1F, 0x8B]

/-- What follows a text that ends with a zero byte and has at most `limit` bytes before it. -/
def skipTextWithin? : Nat → List UInt8 → Option (List UInt8)
  | _, [] => none
  | 0, b :: bs => if b = 0 then some bs else none
  | limit + 1, b :: bs => if b = 0 then some bs else skipTextWithin? limit bs

def skipText? : List UInt8 → Option (List UInt8) := skipTextWithin? 65535

def skipHeader? (bytes : List UInt8) : Option (List UInt8) := do
  let (fixed, rest) ← takeBytes? 10 bytes
  let flags := (fixed.getD 3 0).toNat
  if fixed.take 2 ≠ magic ∨ fixed.getD 2 0 ≠ 8 ∨ 32 ≤ flags then none
  else
    let rest ← if flags.testBit 2 then do
        let (length, rest) ← word? 2 rest
        (takeBytes? length rest).map (·.2)
      else some rest
    let rest ← if flags.testBit 3 then skipText? rest else some rest
    let rest ← if flags.testBit 4 then skipText? rest else some rest
    if flags.testBit 1 then
      let (check, after) ← word? 2 rest
      if check = crc32 (bytes.take (bytes.length - rest.length)) % 65536 then some after else none
    else some rest

/-- The content of the first member. Checksum and length have to be right; what follows does not
matter. -/
def read? (bytes : List UInt8) : Option (List UInt8) := do
  let body ← skipHeader? bytes
  let (content, left) ← Inflate.inflate? body
  let trailer := body.drop (body.length - left)
  let (check, trailer) ← word? 4 trailer
  let (length, _) ← word? 4 trailer
  if check = crc32 content ∧ length = content.length % 0x100000000 then some content else none

end RowStream.Codec.Gzip

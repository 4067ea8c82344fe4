/-! # Padded base64 -/
namespace RowStream.Text.Base64

def alphabet : List Char :=
  "ABCDEFGHIJKLMNOPQRSTUVWXYZabcdefghijklmnopqrstuvwxyz0123456789+/".toList

def symbolValue? (c : Char) : Option Nat :=
  if 'A' ≤ c ∧ c ≤ 'Z' then some (c.toNat - 'A'.toNat)
  else if 'a' ≤ c ∧ c ≤ 'z' then some (c.toNat - 'a'.toNat + 26)
  else if '0' ≤ c ∧ c ≤ '9' then some (c.toNat - '0'.toNat + 52)
  else if c = '+' then some 62
  else if c = '/' then some 63
  else none

def symbol (n : Nat) : Char := alphabet.getD n 'A'

def encodeChars : List UInt8 → List Char
  | [] => []
  | [a] => [symbol (a.toNat / 4), symbol (a.toNat % 4 * 16), '=', '=']
  | [a, b] =>
    [symbol (a.toNat / 4), symbol (a.toNat % 4 * 16 + b.toNat / 16), symbol (b.toNat % 16 * 4), '=']
  | a :: b :: c :: rest =>
    symbol (a.toNat / 4) :: symbol (a.toNat % 4 * 16 + b.toNat / 16) ::
      symbol (b.toNat % 16 * 4 + c.toNat / 64) :: symbol (c.toNat % 64) :: encodeChars rest

def encode (bytes : List UInt8) : String := String.ofList (encodeChars bytes)

/-- Reads groups of four symbols. Only the last group may be padded, and then the bits that no
byte takes must be zero, so that each byte string has one spelling. -/
def decode : List Char → Option (List UInt8)
  | [] => some []
  | [p, q, '=', '='] => do
    let a ← symbolValue? p
    let b ← symbolValue? q
    if b % 16 = 0 then some [UInt8.ofNat (a * 4 + b / 16)] else none
  | [p, q, r, '='] => do
    let a ← symbolValue? p
    let b ← symbolValue? q
    let c ← symbolValue? r
    if c % 4 = 0 then some [UInt8.ofNat (a * 4 + b / 16), UInt8.ofNat (b % 16 * 16 + c / 4)] else none
  | p :: q :: r :: s :: rest => do
    let a ← symbolValue? p
    let b ← symbolValue? q
    let c ← symbolValue? r
    let d ← symbolValue? s
    let bytes ← decode rest
    some (UInt8.ofNat (a * 4 + b / 16) :: UInt8.ofNat (b % 16 * 16 + c / 4) ::
      UInt8.ofNat (c % 4 * 64 + d) :: bytes)
  | _ => none

/-- The bytes of symbol values; bits that no byte takes do not count. -/
def ofValues : List Nat → Option (List UInt8)
  | [] => some []
  | [_] => none
  | [a, b] => some [UInt8.ofNat (a * 4 + b / 16)]
  | [a, b, c] => some [UInt8.ofNat (a * 4 + b / 16), UInt8.ofNat (b % 16 * 16 + c / 4)]
  | a :: b :: c :: d :: rest => do
    let bytes ← ofValues rest
    some (UInt8.ofNat (a * 4 + b / 16) :: UInt8.ofNat (b % 16 * 16 + c / 4) ::
      UInt8.ofNat (c % 4 * 64 + d) :: bytes)

def isGap (c : Char) : Bool := (0x9 ≤ c.toNat && c.toNat ≤ 0xD) || c == ' '

/-- At most two signs fill the last group up to four. -/
def isFilled (symbols padding : List Char) : Bool :=
  padding.isEmpty ||
    (padding.all (· == '=') && padding.length ≤ 2 && (symbols.length + padding.length) % 4 == 0)

/-- Reads text that is broken into lines. Its last group may be filled up or not. -/
def decodeBroken (text : List Char) : Option (List UInt8) :=
  let cs := text.filter fun c => !isGap c
  let symbols := cs.takeWhile (· != '=')
  if isFilled symbols (cs.dropWhile (· != '=')) then (symbols.mapM symbolValue?).bind ofValues else none

end RowStream.Text.Base64

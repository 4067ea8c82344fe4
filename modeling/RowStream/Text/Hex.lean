/-! # Hexadecimal bytes -/
namespace RowStream.Text.Hex

def lowerDigits : List Char := "0123456789abcdef".toList
def upperDigits : List Char := "0123456789ABCDEF".toList

def digitValue? (c : Char) : Option Nat :=
  if '0' ≤ c ∧ c ≤ '9' then some (c.toNat - '0'.toNat)
  else if 'a' ≤ c ∧ c ≤ 'f' then some (c.toNat - 'a'.toNat + 10)
  else if 'A' ≤ c ∧ c ≤ 'F' then some (c.toNat - 'A'.toNat + 10)
  else none

def encodeWith (digits : List Char) : List UInt8 → List Char
  | [] => []
  | b :: bs => digits.getD (b.toNat / 16) '0' :: digits.getD (b.toNat % 16) '0' :: encodeWith digits bs

def encode (bytes : List UInt8) : String := String.ofList (encodeWith lowerDigits bytes)

def encodeUpper (bytes : List UInt8) : String := String.ofList (encodeWith upperDigits bytes)

/-- Reads digits of either case in pairs; an odd count or another character is refused. -/
def decode : List Char → Option (List UInt8)
  | [] => some []
  | [_] => none
  | a :: b :: rest =>
    match digitValue? a, digitValue? b, decode rest with
    | some x, some y, some bytes => some (UInt8.ofNat (16 * x + y) :: bytes)
    | _, _, _ => none

theorem digitValue?_lower : ∀ n, n < 16 → digitValue? (lowerDigits.getD n '0') = some n := by decide

theorem digitValue?_upper : ∀ n, n < 16 → digitValue? (upperDigits.getD n '0') = some n := by decide

theorem decode_encodeWith {digits : List Char}
    (h : ∀ n, n < 16 → digitValue? (digits.getD n '0') = some n) (bytes : List UInt8) :
    decode (encodeWith digits bytes) = some bytes := by
  induction bytes with
  | nil => rfl
  | cons b bs ih =>
    have hb := b.toNat_lt
    simp only [encodeWith, decode, h (b.toNat / 16) (by omega), h (b.toNat % 16) (by omega), ih]
    rw [show 16 * (b.toNat / 16) + b.toNat % 16 = b.toNat by omega]
    simp

/-- What is written is read back. -/
theorem decode_encode (bytes : List UInt8) : decode (encode bytes).toList = some bytes := by
  simpa [encode] using decode_encodeWith digitValue?_lower bytes

theorem decode_encodeUpper (bytes : List UInt8) : decode (encodeUpper bytes).toList = some bytes := by
  simpa [encodeUpper] using decode_encodeWith digitValue?_upper bytes

end RowStream.Text.Hex

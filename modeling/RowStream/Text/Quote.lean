import RowStream.Text.Hex
import RowStream.Unicode.Hidden

/-! # Names in quotes -/
namespace RowStream.Text

/-- The digits of a number in the sixteen system, without leading zeros. -/
def hexDigits (n : Nat) : List Char := Nat.toDigits 16 n

/-- How a character is written between quotes. What cannot be seen is written as its number. -/
def quotedChar (c : Char) : List Char :=
  if c = '"' then ['\\', '"']
  else if c = '\\' then ['\\', '\\']
  else if c = '\n' then ['\\', 'n']
  else if c = '\r' then ['\\', 'r']
  else if c = '\t' then ['\\', 't']
  else if c = '\x00' then ['\\', '0']
  else if Unicode.isHidden c then ['\\', 'u', '\x7b'] ++ hexDigits c.toNat ++ ['\x7d']
  else [c]

def quoted (s : String) : String := String.ofList ('"' :: s.toList.flatMap quotedChar ++ ['"'])

end RowStream.Text

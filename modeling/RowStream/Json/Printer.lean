import RowStream.Json.Basic

/-! # Compact JSON text -/
namespace RowStream.Json

def hexDigit (n : Nat) : Char := "0123456789abcdef".toList.getD n '0'

/-- Quotes, backslashes and control characters are escaped, all else stands for itself. -/
def escape (c : Char) : List Char :=
  match c with
  | '"' => ['\\', '"']
  | '\\' => ['\\', '\\']
  | '\x08' => ['\\', 'b']
  | '\x0c' => ['\\', 'f']
  | '\n' => ['\\', 'n']
  | '\r' => ['\\', 'r']
  | '\t' => ['\\', 't']
  | c =>
    if c.toNat < 0x20 then ['\\', 'u', '0', '0', hexDigit (c.toNat / 16), hexDigit (c.toNat % 16)]
    else [c]

def quote (cs : List Char) : List Char := '"' :: (cs.flatMap escape ++ ['"'])

mutual
def renderChars : Json → List Char
  | .null => ['n', 'u', 'l', 'l']
  | .bool true => ['t', 'r', 'u', 'e']
  | .bool false => ['f', 'a', 'l', 's', 'e']
  | .number text => text.toList
  | .string text => quote text.toList
  | .array items => '[' :: (renderItems items ++ [']'])
  | .object members => '\x7b' :: (renderMembers members ++ ['\x7d'])

def renderItems : List Json → List Char
  | [] => []
  | [item] => renderChars item
  | item :: items => renderChars item ++ ',' :: renderItems items

def renderMembers : List (String × Json) → List Char
  | [] => []
  | [(name, value)] => quote name.toList ++ ':' :: renderChars value
  | (name, value) :: members => quote name.toList ++ ':' :: (renderChars value ++ ',' :: renderMembers members)
end

/-- The document without blanks, members in their order and numbers as they were written. -/
def render (j : Json) : String := String.ofList j.renderChars

end RowStream.Json

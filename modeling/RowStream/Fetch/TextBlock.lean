import RowStream.Text.Ascii
import RowStream.Text.Base64

/-! # Blocks of bytes in text

A block is base64 between a line that begins it and one that ends it, both with its label. What stands
outside of blocks does not count. -/
namespace RowStream
open RowStream.Text

structure TextBlock where
  label : List Char
  content : List UInt8
deriving Repr, DecidableEq

namespace TextBlock

/-- A line ends at either of the two characters for it. -/
def isLineEnd (c : Char) : Bool := c == '\n' || c == '\r'

/-- The lines of a text. Two ends in a row make an empty line. -/
def linesOf : List Char → List (List Char)
  | [] => [[]]
  | c :: cs =>
    if isLineEnd c then [] :: linesOf cs
    else match linesOf cs with
      | [] => [[c]]
      | line :: lines => (c :: line) :: lines

def beginMark : List Char := "-----BEGIN ".toList
def endMark : List Char := "-----END ".toList
def closing : List Char := "-----".toList

/-- Cuts dashes and spaces off the end of a line: what is before the first of these dashes, and how
many dashes there are. The line is given last character first, and so is the answer. -/
def cutDashes (dashes : Nat) (before : List Char) : List Char → List Char × Nat
  | [] => (before, dashes)
  | c :: cs =>
    if c == '-' then cutDashes (dashes + 1) cs cs
    else if c == ' ' then cutDashes dashes before cs
    else (before, dashes)

/-- The label of a line that begins a block; `none` inside where the line does not end as it has to. -/
def beginLabel? (line : List Char) : Option (Option (List Char)) :=
  if beginMark.isPrefixOf line then
    let (before, dashes) := cutDashes 0 line.reverse line.reverse
    some (if dashes = closing.length then some (before.reverse.drop beginMark.length) else none)
  else none

def isEnd (label line : List Char) : Bool := (endMark ++ label ++ closing).isPrefixOf line

def labels : List (List Char) :=
  ["CERTIFICATE", "PUBLIC KEY", "RSA PRIVATE KEY", "PRIVATE KEY", "EC PRIVATE KEY", "X509 CRL",
    "CERTIFICATE REQUEST", "ECHCONFIG"].map String.toList

/-- Reads the lines. An open block has a label and its lines so far, last line first; a line that
begins another block inside it changes the label alone. -/
def readLines (current : Option (List Char × List (List Char))) : List (List Char) → Option (List TextBlock)
  | [] => if current.isSome then none else some []
  | line :: lines =>
    match beginLabel? line with
    | some none => none
    | some (some label) => readLines (some (label, (current.map (·.2)).getD [])) lines
    | none =>
      match current with
      | none => readLines none lines
      | some (label, text) =>
        if !isEnd label line then readLines (some (label, line :: text)) lines
        else if labels.contains label then do
          let content ← Base64.decodeBroken text.reverse.flatten
          let blocks ← readLines none lines
          some (⟨label, content⟩ :: blocks)
        else readLines none lines

def read? (text : String) : Option (List TextBlock) := readLines none (linesOf text.toList)

end TextBlock
end RowStream

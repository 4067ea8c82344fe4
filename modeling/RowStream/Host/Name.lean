import RowStream.Host.Label
import RowStream.Host.Address
import RowStream.Text.Utf8

/-! # Hosts of web addresses -/
namespace RowStream.Host
open RowStream.Text

/-- The bytes of a text; a percent sign before two digits of the sixteen system stands with them for
one byte. -/
def percentDecode : List Char → List UInt8
  | [] => []
  | c :: cs =>
    match c, cs with
    | '%', a :: b :: rest =>
      match Hex.digitValue? a, Hex.digitValue? b with
      | some x, some y => UInt8.ofNat (16 * x + y) :: percentDecode rest
      | _, _ => Utf8.encodeChar '%' ++ percentDecode (a :: b :: rest)
    | c, cs => Utf8.encodeChar c ++ percentDecode cs

/-- Controls, spaces and marks that mean something elsewhere in an address. -/
def isForbidden (c : Char) : Bool :=
  c.toNat ≤ 0x20 || c.toNat == 0x7F || "\"#%/:<>?@[\\]^\x60\x7b|\x7d".toList.contains c

def labels? (text : List Char) : Option (List (List Char)) := do
  let name := Unicode.compose (← Unicode.mapHost text)
  if name.isEmpty || name.any isForbidden then none
  else
    let labels ← (splitAt '.' name).mapM Label.meaning?
    if Label.areWellFormed labels then some labels else none

def isName (text : List Char) : Bool :=
  match (Utf8.decode (percentDecode text)).bind labels? with
  | some labels => !Address.endsInNumber labels || Address.isV4 labels
  | none => false

/-- A host is a name, four bytes, or an address of eight groups in brackets. -/
def isHost : List Char → Bool
  | '[' :: cs => cs.getLast? == some ']' && Address.isV6 cs.dropLast
  | cs => isName cs

end RowStream.Host

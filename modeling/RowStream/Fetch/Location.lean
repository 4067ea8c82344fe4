import RowStream.Host.Name

/-! # Where chunks are

A location is an absolute web address. -/
namespace RowStream.Location
open RowStream.Text RowStream.Number

def schemes : List (List Char) := ["http".toList, "https".toList]

def isControl (c : Char) : Bool := c.toNat < 0x20

/-- Controls and spaces around an address do not count, nor do line breaks and tabs within. -/
def clean (cs : List Char) : List Char :=
  let dropEdge := List.dropWhile fun c => isControl c || c == ' '
  (dropEdge (dropEdge cs).reverse).reverse.filter fun c => !(['\t', '\n', '\r'].contains c)

/-- What names the server: a user, a host and a number after it. Any number of slashes may stand before
it. -/
def authority (rest : List Char) : List Char :=
  (rest.dropWhile fun c => c == '/' || c == '\\').takeWhile fun c => !(['/', '\\', '?', '#'].contains c)

def afterUser (authority : List Char) : List Char := (authority.reverse.takeWhile (· != '@')).reverse

/-- The host and what follows the first colon outside of brackets. -/
def cutColon (inBrackets : Bool) : List Char → List Char × List Char
  | [] => ([], [])
  | c :: cs =>
    if c = ':' ∧ !inBrackets then ([], cs)
    else
      let p := cutColon (c == '[' || (inBrackets && c != ']')) cs
      (c :: p.1, p.2)

/-- Servers are numbered by two bytes. No digits at all stand for the usual number. -/
def isServerNumber (digits : List Char) : Bool := allDigits digits && ofDigits digits < 65536

/-- A host and perhaps the number of a server there. -/
def isServer (cs : List Char) : Bool :=
  let p := cutColon false cs
  Host.isHost p.1 && isServerNumber p.2

def isValid (location : String) : Bool :=
  match cutAt ':' (clean location.toList) with
  | some (scheme, rest) => schemes.contains (lower scheme) && isServer (afterUser (authority rest))
  | none => false

end RowStream.Location

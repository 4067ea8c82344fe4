import RowStream.Text.Ascii
import RowStream.Text.Hex
import RowStream.Number.Literal

/-! # Hosts by number -/
namespace RowStream.Host.Address
open RowStream.Text RowStream.Number

def isOctal (c : Char) : Bool := '0' ≤ c && c ≤ '7'

def isHex (c : Char) : Bool := (Hex.digitValue? c).isSome

def ofRadix (radix : Nat) (digits : List Char) : Nat :=
  digits.foldl (fun n c => radix * n + (Hex.digitValue? c).getD 0) 0

/-- A number in the ten system; after a zero in the eight system, after `0x` in the sixteen system. -/
def number? : List Char → Option Nat
  | [] => none
  | '0' :: 'x' :: ds | '0' :: 'X' :: ds => if ds.all isHex then some (ofRadix 16 ds) else none
  | '0' :: d :: ds => if (d :: ds).all isOctal then some (ofRadix 8 (d :: ds)) else none
  | ds => if allDigits ds then some (ofDigits ds) else none

/-- A dot at the end does not count. -/
def withoutRoot (labels : List (List Char)) : List (List Char) :=
  if labels.getLast? = some [] then labels.dropLast else labels

/-- A name whose last label is a number is an address. -/
def endsInNumber (labels : List (List Char)) : Bool :=
  (withoutRoot labels).getLast?.any fun l => (!l.isEmpty && allDigits l) || (number? l).isSome

/-- Each number is one byte, and the last one fills what is left of four. -/
def isV4 (labels : List (List Char)) : Bool :=
  match (withoutRoot labels).mapM number? with
  | none => false
  | some ns =>
    ns.length ≤ 4 && ns.dropLast.all (· < 256) && ns.getLastD 0 < Nat.pow 256 (5 - ns.length)

def isByte (ds : List Char) : Bool :=
  !ds.isEmpty && allDigits ds && (ds.length == 1 || ds.head? != some '0') && ofDigits ds < 256

def isDottedQuad (cs : List Char) : Bool :=
  let parts := splitAt '.' cs
  parts.length == 4 && parts.all isByte

def groupCount : Nat := 8

/-- The number of digits that a group begins with, four at most. -/
def groupLength (cs : List Char) : Nat := ((cs.take 4).takeWhile isHex).length

/-- Goes on after `n` groups, where an empty one stands for as many zeros as are missing; `short` tells
that there has been such a one. The last two groups may be four bytes with dots. -/
def isV6From (n : Nat) (short : Bool) (cs : List Char) : Bool :=
  match cs with
  | [] => short || n == groupCount
  | c :: cs =>
    if n = groupCount then false
    else if c = ':' then !short && isV6From (n + 1) true cs
    else
      match _h : (c :: cs).drop (groupLength (c :: cs)) with
      | [] => short || n + 1 == groupCount
      | d :: rest =>
        if groupLength (c :: cs) = 0 then false
        else if d = ':' then !rest.isEmpty && isV6From (n + 1) short rest
        else if d = '.' then
          isDottedQuad (c :: cs) && (n + 2 == groupCount || (short && n + 2 ≤ groupCount))
        else false
termination_by cs.length
decreasing_by
  · simp
  · have := congrArg List.length _h
    simp only [List.length_drop, List.length_cons] at this ⊢
    omega

/-- An address that begins with a colon begins with two. -/
def isV6 : List Char → Bool
  | ':' :: ':' :: cs => isV6From 1 true cs
  | ':' :: _ => false
  | cs => 2 ≤ cs.length && isV6From 0 false cs

end RowStream.Host.Address

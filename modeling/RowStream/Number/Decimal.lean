import RowStream.Text.Blank
import RowStream.Number.Literal

/-! # Decimal numbers as an unscaled integer and a scale -/
namespace RowStream.Number.Decimal
open RowStream.Text

/-- A text cut into sign, integer digits, fraction digits and exponent. -/
structure Parts where
  negative : Bool := false
  whole : List Char := []
  fraction : List Char := []
  exponent : Int := 0
deriving Repr, DecidableEq

def isExponentMark (c : Char) : Bool := c == 'e' || c == 'E'

def cutExponent (cs : List Char) : Option (List Char × Int) :=
  match cs.span (fun c => !isExponentMark c) with
  | (mantissa, []) => some (mantissa, 0)
  | (mantissa, _ :: digits) => do some (mantissa, ← Range.int64.read? digits)

def cutSign : List Char → Bool × List Char
  | '-' :: cs => (true, cs)
  | '+' :: cs => (false, cs)
  | cs => (false, cs)

/-- An optional sign, digits with at most one point among or around them, an optional exponent. -/
def Parts.read? (cs : List Char) : Option Parts := do
  let (negative, body) := cutSign cs
  let (mantissa, exponent) ← cutExponent body
  let (whole, fraction) := (cutAt '.' mantissa).getD (mantissa, [])
  if (whole ++ fraction).isEmpty || !allDigits (whole ++ fraction) then none
  else some ⟨negative, whole, fraction, exponent⟩

/-- The most zeros that are appended to reach a scale. -/
def maxPadding : Nat := 4096

/-- The digits without the last `count`, which have to be zeros. -/
def dropZeros? (count : Nat) (digits : List Char) : Option (List Char) :=
  let kept := digits.take (digits.length - count)
  if (digits.drop (digits.length - count)).all (· == '0') then some kept else none

/-- The digits of the number times `10 ^ scale`, if it is whole. -/
def Parts.scaledDigits? (p : Parts) (scale : Nat) : Option (List Char) := do
  let places ← Range.int64.within? (p.fraction.length - p.exponent)
  let digits := p.whole ++ p.fraction
  if places ≤ scale then
    let padding := ((scale : Int) - places).toNat
    if padding ≤ maxPadding then some (digits ++ List.replicate padding '0') else none
  else dropZeros? (places - scale).toNat digits

/-- The unscaled integer of a literal at a scale. Nothing is rounded: a literal with digits other
than zero beyond the scale is refused. -/
def unscaled? (cs : List Char) (scale : Nat) : Option Int := do
  let p ← Parts.read? (trim cs)
  let digits ← p.scaledDigits? scale
  let n := ofDigits digits
  some (if p.negative then -n else n)

/-- A natural number with a point before its last `scale` digits. -/
def placePoint (n scale : Nat) : List Char :=
  let digits := Nat.toDigits 10 n
  if scale = 0 then digits
  else if digits.length ≤ scale then
    '0' :: '.' :: (List.replicate (scale - digits.length) '0' ++ digits)
  else digits.take (digits.length - scale) ++ '.' :: digits.drop (digits.length - scale)

def renderChars (unscaled : Int) (scale : Nat) : List Char :=
  let magnitude := placePoint unscaled.natAbs scale
  if unscaled < 0 then '-' :: magnitude else magnitude

/-- The number `unscaled / 10 ^ scale` with exactly `scale` fraction digits. -/
def render (unscaled : Int) (scale : Nat) : String := String.ofList (renderChars unscaled scale)

end RowStream.Number.Decimal

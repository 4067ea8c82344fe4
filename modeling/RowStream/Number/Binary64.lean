import RowStream.Number.Decimal

/-! # Binary64 numbers as exact words -/
namespace RowStream.Number

/-- A binary64 number, held as its sixty-four bits. -/
structure Binary64 where
  bits : UInt64
deriving Repr, DecidableEq

namespace Binary64
open RowStream.Text

def fractionModulus : Nat := Nat.pow 2 52
def infinityBits : Nat := 2047 * fractionModulus

def magnitude (x : Binary64) : Nat := x.bits.toNat % Nat.pow 2 63
def isNegative (x : Binary64) : Bool := Nat.pow 2 63 ≤ x.bits.toNat
def isNaN (x : Binary64) : Bool := infinityBits < x.magnitude
def isInfinite (x : Binary64) : Bool := x.magnitude == infinityBits

/-- At least zero, as numbers compare: true of the negative zero and of no NaN. -/
def isNonNegative (x : Binary64) : Bool := !x.isNaN && (!x.isNegative || x.magnitude == 0)

def ofMagnitude (negative : Bool) (magnitude : Nat) : Binary64 :=
  ⟨UInt64.ofNat (if negative then magnitude + Nat.pow 2 63 else magnitude)⟩

def nan : Binary64 := ⟨0x7FF8000000000000⟩
def infinity (negative : Bool) : Binary64 := ofMagnitude negative infinityBits

/-- The finite number is `significand * 2 ^ scale`, its sign apart. -/
def significand (x : Binary64) : Nat :=
  let field := x.magnitude / fractionModulus
  x.magnitude % fractionModulus + (if field = 0 then 0 else fractionModulus)

def scale (x : Binary64) : Int :=
  let field := x.magnitude / fractionModulus
  (if field = 0 then 1 else (field : Int)) - 1075

/-- The whole number nearest to `n / d`, a tie to the even one. -/
def roundToEven (n d : Nat) : Nat :=
  let q := n / d
  let r := 2 * (n % d)
  if r < d ∨ (r = d ∧ q % 2 = 0) then q else q + 1

/-- Numerator and denominator of `n / d` in units of `2 ^ x`. -/
def inUnits (n d : Nat) (x : Int) : Nat × Nat :=
  (n * Nat.pow 2 (-x).toNat, d * Nat.pow 2 x.toNat)

/-- The magnitude nearest to `n / d`, a tie to the even significand; too large a ratio is infinite. -/
def nearestMagnitude (n d : Nat) : Nat :=
  if n = 0 then 0 else
  let low := max ((n.log2 : Int) - d.log2 - 53) (-1074)
  let unit := if Nat.pow 2 53 ≤ (inUnits n d low).1 / (inUnits n d low).2 then low + 1 else low
  let ratio := inUnits n d unit
  min ((unit + 1074).toNat * fractionModulus + roundToEven ratio.1 ratio.2) infinityBits

def ofRatio (negative : Bool) (n d : Nat) : Binary64 := ofMagnitude negative (nearestMagnitude n d)

def ofInt (n : Int) : Binary64 := ofRatio (n < 0) n.natAbs 1

/-- The number nearest to `digits * 10 ^ exponent`. Decimals far outside the range are settled by
their number of digits alone. -/
def ofDecimal (negative : Bool) (digits : Nat) (exponent : Int) : Binary64 :=
  let top := (Nat.toDigits 10 digits).length + exponent
  if digits = 0 ∨ top < -330 then ofMagnitude negative 0
  else if 310 < top then infinity negative
  else ofRatio negative (digits * Nat.pow 10 exponent.toNat) (Nat.pow 10 (-exponent).toNat)

def ofScaled (unscaled : Int) (scale : Nat) : Binary64 :=
  ofDecimal (unscaled < 0) unscaled.natAbs (-scale)

/-- Digits with at most one point, then an optional exponent of any size. -/
def magnitudeParts? (cs : List Char) : Option (Nat × Int) := do
  let (mantissa, exponentText) :=
    match cs.span (fun c => !Decimal.isExponentMark c) with
    | (mantissa, []) => (mantissa, none)
    | (mantissa, _ :: rest) => (mantissa, some rest)
  let exponent : Int ← match exponentText with
    | none => some 0
    | some rest => do
      let (negative, digits) := Decimal.cutSign rest
      let n ← natural? digits
      some (if negative then -(n : Int) else n)
  let (whole, fraction) := (cutAt '.' mantissa).getD (mantissa, [])
  if (whole ++ fraction).isEmpty || !allDigits (whole ++ fraction) then none
  else some (ofDigits (whole ++ fraction), exponent - fraction.length)

/-- A decimal literal, or one of `inf`, `infinity` and `nan` in any case, after an optional sign. -/
def read? (cs : List Char) : Option Binary64 :=
  let (negative, body) := Decimal.cutSign cs
  if lower body = "inf".toList ∨ lower body = "infinity".toList then some (infinity negative)
  else if lower body = "nan".toList then some nan
  else (magnitudeParts? body).map fun p => ofDecimal negative p.1 p.2

/-- The ends of the interval of numbers that round to `x`, in units of `2 ^ (x.scale - 2)`. The
lower neighbour of a power of two is nearer. -/
def roundingInterval (x : Binary64) : Nat × Nat :=
  let m := x.significand
  let below := if m = fractionModulus ∧ fractionModulus < x.magnitude then 1 else 2
  (4 * m - below, 4 * m + 2)

def leadingExponent (n d : Nat) : Int :=
  let guess := ((n.log2 : Int) - d.log2) * 30103 / 100000
  let reaches (e : Int) : Bool := d * Nat.pow 10 e.toNat ≤ n * Nat.pow 10 (-e).toNat
  if reaches (guess + 1) then guess + 1 else if reaches guess then guess else guess - 1

/-- On the grid of `10 ^ unit`, the neighbour of `n / d` between `low / d` and `high / d` that is
nearest to it; a tie goes up. The ends count iff `closed`. -/
def gridPoint? (n low high d : Nat) (closed : Bool) (unit : Int) : Option Nat :=
  let up := Nat.pow 10 (-unit).toNat
  let step := d * Nat.pow 10 unit.toNat
  let inside (c : Nat) : Bool :=
    if closed then low * up ≤ c * step && c * step ≤ high * up
    else low * up < c * step && c * step < high * up
  let c := n * up / step
  let down := n * up - c * step
  match inside c, inside (c + 1) with
  | true, true => some (if 2 * down < step then c else c + 1)
  | true, false => some c
  | false, true => some (c + 1)
  | false, false => none

/-- The shortest decimal `c * 10 ^ k` that rounds to a finite number other than zero. -/
def shortest (x : Binary64) : Nat × Int :=
  let base := x.scale - 2
  let d := Nat.pow 2 (-base).toNat
  let scaled (n : Nat) : Nat := n * Nat.pow 2 base.toNat
  let (low, high) := x.roundingInterval
  let n := scaled (4 * x.significand)
  let lead := leadingExponent n d
  let closed := x.significand % 2 == 0
  let found := (List.range 17).findSome? fun (k : Nat) =>
    (gridPoint? n (scaled low) (scaled high) d closed (lead - k)).map (·, lead - k)
  let (c, k) := found.getD (0, 0)
  let width := (Nat.toDigits 10 c).length - 1
  if c = Nat.pow 10 width then (1, k + width) else (c, k)

/-- The shortest decimal that reads back, written without an exponent. -/
def renderChars (x : Binary64) : List Char :=
  if x.isNaN then "NaN".toList
  else
    let body :=
      if x.isInfinite then "inf".toList
      else if x.magnitude = 0 then ['0']
      else
        let (c, k) := x.shortest
        if 0 ≤ k then Nat.toDigits 10 c ++ List.replicate k.toNat '0'
        else Decimal.placePoint c (-k).toNat
    if x.isNegative then '-' :: body else body

def render (x : Binary64) : String := String.ofList x.renderChars

/-- The number that the bits of a binary32 stand for. -/
def ofBinary32 (bits : UInt32) : Binary64 :=
  let negative := decide (Nat.pow 2 31 ≤ bits.toNat)
  let field : Nat := bits.toNat / Nat.pow 2 23 % 256
  let fraction : Nat := bits.toNat % Nat.pow 2 23
  if field = 255 then (if fraction = 0 then infinity negative else nan)
  else
    let m := fraction + (if field = 0 then 0 else Nat.pow 2 23)
    let e : Int := (if field = 0 then 1 else (field : Int)) - 150
    ofRatio negative (m * Nat.pow 2 e.toNat) (Nat.pow 2 (-e).toNat)

end Binary64
end RowStream.Number

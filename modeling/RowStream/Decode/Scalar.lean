import RowStream.Error
import RowStream.Value
import RowStream.SessionFormat
import RowStream.Text.Hex
import RowStream.Number.Decimal
import RowStream.Calendar.Reading

/-! # Scalars from texts and from scaled integers -/
namespace RowStream

structure DecodeOptions where
  higherPrecision : Bool := false
  formats : OutputFormats := {}
deriving Repr, DecidableEq

namespace Decode
open RowStream.Text RowStream.Number RowStream.Calendar

def refused (kind : TypeKind) (text : String) : Error :=
  .decode ("cannot decode '" ++ text ++ "' as " ++ kind.name)

def orRefused {α : Type} (kind : TypeKind) (text : String) : Option α → Result α
  | some a => .ok a
  | none => .error (refused kind text)

/-- The value of a number given by its unscaled integer. Without higher precision whatever is no
64-bit integer becomes a float. -/
def fixedValue (unscaled : Int) (scale : Nat) (o : DecodeOptions) : Value :=
  if scale = 0 then
    if unscaled ∈ Range.int64 then .int unscaled
    else if o.higherPrecision then .bigInt unscaled
    else .float (Binary64.ofScaled unscaled 0)
  else if o.higherPrecision then .decimal unscaled scale
  else .float (Binary64.ofScaled unscaled scale)

def parseFixed (text : String) (scale : Nat) : Result Int :=
  orRefused .fixed text (Decimal.unscaled? text.toList scale)

/-- An optional minus sign, then digits and points. -/
def isEpochForm (cs : List Char) : Bool :=
  let body := (dropStart? ['-'] cs).getD cs
  !body.isEmpty && body.all fun c => isDigit c || c == '.'

/-- Up to nine fraction digits as nanos. -/
def fractionNanos? (digits : List Char) : Option Nat :=
  if digits.length ≤ 9 ∧ allDigits digits then some (ofDigits digits * Nat.pow 10 (9 - digits.length))
  else none

/-- Whole seconds and nanos, which are never negative: a negative fraction borrows a second. -/
def epoch? (cs : List Char) : Option (Int × Nat) := do
  let (negative, body) := match cs with
    | '-' :: rest => (true, rest)
    | cs => (false, cs)
  let (whole, fraction) := (cutAt '.' body).getD (body, [])
  let seconds : Int ← if whole.isEmpty then some 0 else Range.int64.read? whole
  let nanos ← fractionNanos? fraction
  some (if !negative then (seconds, nanos)
    else if nanos = 0 then (-seconds, 0)
    else (-seconds - 1, nanosPerSecond - nanos))

/-- Seconds and nanos of a count of `10 ^ -scale` seconds. -/
def splitScaled (n : Int) (scale : Nat) : Result (Int × Nat) :=
  if 9 < scale then .error (.decode ("unsupported fractional scale " ++ toString scale))
  else
    let unit : Int := Nat.pow 10 scale
    .ok (n / unit, (n % unit).toNat * Nat.pow 10 (9 - scale))

def dateOfDays (days : Int) : Result Date :=
  match Date.ofDay? days with
  | some d => .ok d
  | none => .error (.decode ("date out of range: " ++ toString days ++ " days"))

def timeOfParts (seconds : Int) (nanos : Nat) : Result Time :=
  let found := if 0 ≤ seconds then Time.ofParts? seconds.toNat nanos else none
  match found with
  | some t => .ok t
  | none => .error (.decode ("time out of range: " ++ toString seconds ++ "s"))

def instantOfParts (seconds : Int) (nanos : Nat) : Result Instant :=
  match Instant.ofParts? seconds nanos with
  | some i => .ok i
  | none => .error (.decode ("timestamp out of range: " ++ toString seconds ++ "s"))

/-- Offsets are stored as minutes east plus this many. -/
def offsetBias : Int := 1440

/-- The zoned value of an instant and a stored offset. -/
def zonedOfParts (seconds : Int) (nanos : Nat) (storedOffset : Int) : Result Zoned :=
  let offset := (storedOffset - offsetBias) * 60
  if h : offset.natAbs < secondsPerDay then do
    let instant ← instantOfParts seconds nanos
    .ok ⟨instant, offset, h⟩
  else .error (.decode ("invalid timezone offset " ++ toString storedOffset))

def isoDate : List Char := "%Y-%m-%d".toList
def isoTime : List Char := "%H:%M:%S%.f".toList
def isoWall : List Char := "%Y-%m-%d %H:%M:%S%.f".toList
def isoWallT : List Char := "%Y-%m-%dT%H:%M:%S%.f".toList

def isoZoned : List (List Char) :=
  ["%Y-%m-%d %H:%M:%S%.f %:z", "%Y-%m-%d %H:%M:%S%.f %z", "%Y-%m-%d %H:%M:%S%.f%:z",
    "%Y-%m-%dT%H:%M:%S%.f%:z"].map String.toList

/-- A count of days, else the session's layout, else the ISO one. -/
def parseDate (text : String) (pattern : Option (List Char)) : Result Date :=
  let t := trimmed text
  if isEpochForm t && !t.contains '.' then
    match Range.int64.read? t with
    | some days => dateOfDays days
    | none => .error (refused .date text)
  else
    orRefused .date text ((pattern.bind fun p => Date.read? p t).or (Date.read? isoDate t))

def parseTime (text : String) (pattern : Option (List Char)) : Result Time :=
  let t := trimmed text
  if isEpochForm t then do
    let (seconds, nanos) ← orRefused .time text (epoch? t)
    timeOfParts seconds nanos
  else
    orRefused .time text ((pattern.bind fun p => Time.read? p t).or (Time.read? isoTime t))

def wallClock? (t : List Char) (pattern : Option (List Char)) : Option Instant :=
  (pattern.toList ++ [isoWall, isoWallT]).findSome? fun p => Instant.read? p t

def parseNtz (text : String) (pattern : Option (List Char)) : Result Instant :=
  let t := trimmed text
  if isEpochForm t then do
    let (seconds, nanos) ← orRefused .timestampNtz text (epoch? t)
    instantOfParts seconds nanos
  else orRefused .timestampNtz text (wallClock? t pattern)

def zoned? (t : List Char) (pattern : Option (List Char)) : Option Zoned :=
  ((pattern.toList ++ isoZoned).findSome? fun p => Zoned.read? p t).or (Zoned.readInternet? t)

/-- An offset in the text counts; a wall clock without one is taken as UTC. -/
def parseLtz (text : String) (pattern : Option (List Char)) : Result Instant :=
  let t := trimmed text
  if isEpochForm t then do
    let (seconds, nanos) ← orRefused .timestampLtz text (epoch? t)
    instantOfParts seconds nanos
  else orRefused .timestampLtz text (((zoned? t pattern).map (·.instant)).or (wallClock? t pattern))

def storedZoned? (t : List Char) : Option (List Char × List Char) :=
  (cutAt ' ' t).filter fun p => isEpochForm p.1 && allDigits p.2

def parseTz (text : String) (pattern : Option (List Char)) : Result Zoned :=
  let t := trimmed text
  match storedZoned? t with
  | some (epoch, offset) => do
    let (seconds, nanos) ← orRefused .timestampTz text (epoch? epoch)
    let offset ← orRefused .timestampTz text (Range.int64.read? offset)
    zonedOfParts seconds nanos offset
  | none => orRefused .timestampTz text (zoned? t pattern)

/-- One and zero as digits, or the words in any case. -/
def boolean? (cs : List Char) : Option Bool :=
  let word := String.ofList (lower cs)
  if word = "1" ∨ word = "true" then some true
  else if word = "0" ∨ word = "false" then some false
  else none

/-- The value of a scalar column's text. Semi-structured values stay text. -/
def text (t : ColumnType) (s : String) (o : DecodeOptions) : Result Value :=
  let pattern := o.formats.pattern? t.kind
  match t.kind with
  | .fixed => (parseFixed s t.scale).map fun n => fixedValue n t.scale o
  | .real => (orRefused .real s (Binary64.read? (trimmed s))).map .float
  | .boolean => (orRefused .boolean s (boolean? (trimmed s))).map .bool
  | .date => (parseDate s pattern).map .date
  | .time => (parseTime s pattern).map .time
  | .timestampNtz => (parseNtz s pattern).map .timestampNtz
  | .timestampLtz => (parseLtz s pattern).map .timestampLtz
  | .timestampTz => (parseTz s pattern).map .timestampTz
  | .binary => (orRefused .binary s (Hex.decode (trimmed s))).map .binary
  | .text | .variant | .object | .array | .map => .ok (.text s)

end Decode
end RowStream

import RowStream.Text.Ascii
import RowStream.Number.Literal
import RowStream.Calendar.Pattern
import RowStream.Calendar.Fields

/-! # Reading dates and times by patterns

Each step of reading gives what it found and the rest of the text. -/
namespace RowStream.Calendar
open RowStream.Text RowStream.Number

/-- At least `least` digits, and no more than `most` of them. The value stays in 64 bits. -/
def digits? (least most : Nat) (cs : List Char) : Option (Nat × List Char) :=
  let run := (cs.take most).takeWhile isDigit
  let n := ofDigits run
  if run.length < least ∨ Range.int64.high < n then none else some (n, cs.drop run.length)

/-- As many digits as there are, after a sign. -/
def signedDigits? (cs : List Char) : Option (Nat × List Char) := digits? 1 cs.length cs

/-- After its sign a year has any number of digits, else at most four. -/
def year? : List Char → Option (Int × List Char)
  | '-' :: cs => (signedDigits? cs).map fun r => (-(r.1 : Int), r.2)
  | '+' :: cs => (signedDigits? cs).map fun r => ((r.1 : Int), r.2)
  | cs => (digits? 1 4 cs).map fun r => ((r.1 : Int), r.2)

def nanos? (cs : List Char) : Option (Nat × List Char) := do
  let (n, rest) ← digits? 1 9 cs
  let read := cs.length - rest.length
  some (n * Nat.pow 10 (9 - read), rest.dropWhile isDigit)

/-- The index of the first name that the text begins with, in any case. -/
def name? (names : List (List Char)) (cs : List Char) : Option (Nat × List Char) := do
  let i ← names.findIdx? fun name => lower (cs.take name.length) == name
  some (i, cs.drop (names.getD i []).length)

def shortMonths : List (List Char) :=
  ["jan", "feb", "mar", "apr", "may", "jun", "jul", "aug", "sep", "oct", "nov", "dec"].map String.toList

def monthEndings : List (List Char) :=
  ["uary", "ruary", "ch", "il", "", "e", "y", "ust", "tember", "ober", "ember", "ember"].map String.toList

def shortWeekdays : List (List Char) :=
  ["mon", "tue", "wed", "thu", "fri", "sat", "sun"].map String.toList

/-- The short name of a month, and the rest of the long one if it is there. -/
def longMonth? (cs : List Char) : Option (Nat × List Char) := do
  let (i, rest) ← name? shortMonths cs
  let ending := monthEndings.getD i []
  some (i, if lower (rest.take ending.length) == ending then rest.drop ending.length else rest)

def halfDays : List (List Char) := ["am", "pm"].map String.toList

/-- Sign and two digits of hours, then whatever the separator takes, then two digits of minutes,
which may be missing only at the end of the text and if that is allowed. -/
def offset? (separator : List Char → Option (List Char)) (minutesOptional : Bool)
    (cs : List Char) : Option (Int × List Char) := do
  let (negative, body) ← match cs with
    | '+' :: cs => some (false, cs)
    | '-' :: cs => some (true, cs)
    | '−' :: cs => some (true, cs)
    | _ => none
  let (hours, rest) ← digits? 2 2 body
  let rest ← separator rest
  let (minutes, rest) ←
    if rest.isEmpty && minutesOptional then some (0, rest)
    else do
      let (minutes, rest) ← digits? 2 2 rest
      if minutes < 60 then some (minutes, rest) else none
  let seconds : Int := hours * 3600 + minutes * 60
  some (if negative then -seconds else seconds, rest)

def colonsOrBlanks (cs : List Char) : Option (List Char) :=
  some (cs.dropWhile fun c => c == ':' || isBlank c)

def oneColon : List Char → Option (List Char)
  | ':' :: cs => some cs
  | _ => none

/-- An offset zero may be written `Z`. -/
def offsetOrZulu? (separator : List Char → Option (List Char)) (minutesOptional : Bool) :
    List Char → Option (Int × List Char)
  | 'Z' :: cs => some (0, cs)
  | 'z' :: cs => some (0, cs)
  | cs => offset? separator minutesOptional cs

namespace Pattern

def store {α : Type} (set : Fields → α → Option Fields) (f : Fields) (s : Option (α × List Char)) :
    Option (Fields × List Char) := do
  let (a, rest) ← s
  some (← set f a, rest)

def readField (field : Field) (f : Fields) (cs : List Char) : Option (Fields × List Char) :=
  match field with
  | .year => store Fields.setYear f (year? (trimLeft cs))
  | .shortYear => store Fields.setYearOfCentury f (digits? 1 2 (trimLeft cs))
  | .month => store Fields.setMonth f (digits? 1 2 (trimLeft cs))
  | .monthName => store (fun f i => f.setMonth (i + 1)) f (name? shortMonths cs)
  | .longMonthName => store (fun f i => f.setMonth (i + 1)) f (longMonth? cs)
  | .day => store Fields.setDay f (digits? 1 2 (trimLeft cs))
  | .weekdayName => store Fields.setWeekday f (name? shortWeekdays cs)
  | .hour => store Fields.setHour f (digits? 1 2 (trimLeft cs))
  | .hour12 => store Fields.setHour12 f (digits? 1 2 (trimLeft cs))
  | .halfDay => store Fields.setHalf f (name? halfDays cs)
  | .minute => store Fields.setMinute f (digits? 1 2 (trimLeft cs))
  | .second => store Fields.setSecond f (digits? 1 2 (trimLeft cs))
  | .fraction =>
    match cs with
    | '.' :: rest => store Fields.setNanos f (nanos? rest)
    | _ => some (f, cs)
  | .offset => store Fields.setOffset f (offset? colonsOrBlanks false (trimLeft cs))
  | .colonOffset => store Fields.setOffset f (offset? colonsOrBlanks false (trimLeft cs))
  | .looseOffset => store Fields.setOffset f (offsetOrZulu? colonsOrBlanks true (trimLeft cs))

def readItem (item : Item) (f : Fields) (cs : List Char) : Option (Fields × List Char) :=
  match item with
  | .field field => readField field f cs
  | .literal c => match cs with
    | d :: rest => if c = d then some (f, rest) else none
    | [] => none
  | .blank => some (f, trimLeft cs)
  | .unknown => none

/-- Reads the items in turn; nothing may be left over. -/
def readAll : List Item → Fields → List Char → Option Fields
  | [], f, cs => if cs.isEmpty then some f else none
  | item :: items, f, cs => do
    let (f, rest) ← readItem item f cs
    readAll items f rest

/-- The fields of a text that has the form of the pattern. -/
def read? (pattern cs : List Char) : Option Fields := readAll (items pattern) {} cs

end Pattern

def Date.read? (pattern cs : List Char) : Option Date := do (← Pattern.read? pattern cs).date?
def Time.read? (pattern cs : List Char) : Option Time := do (← Pattern.read? pattern cs).time?
def Instant.read? (pattern cs : List Char) : Option Instant := do (← Pattern.read? pattern cs).wallClock?
def Zoned.read? (pattern cs : List Char) : Option Zoned := do (← Pattern.read? pattern cs).zoned?

def maxInternetOffset : Nat := (23 * 60 + 59) * 60

def oneOf (cs : List Char) (text : List Char) : Option (List Char) :=
  match text with
  | c :: rest => if c ∈ cs then some rest else none
  | [] => none

/-- A timestamp of fixed layout: date, `T` or a blank, time, then an offset with a colon or `Z`. -/
def Zoned.readInternet? (cs : List Char) : Option Zoned := do
  let (y, cs) ← digits? 4 4 cs
  let f ← Fields.setYear {} y
  let (n, cs) ← digits? 2 2 (← oneOf ['-'] cs)
  let f ← f.setMonth n
  let (n, cs) ← digits? 2 2 (← oneOf ['-'] cs)
  let f ← f.setDay n
  let (n, cs) ← digits? 2 2 (← oneOf ['T', 't', ' '] cs)
  let f ← f.setHour n
  let (n, cs) ← digits? 2 2 (← oneOf [':'] cs)
  let f ← f.setMinute n
  let (n, cs) ← digits? 2 2 (← oneOf [':'] cs)
  let f ← f.setSecond n
  let (f, cs) ← Pattern.readField .fraction f cs
  let (offset, cs) ← offsetOrZulu? oneColon false cs
  if cs.isEmpty ∧ offset.natAbs ≤ maxInternetOffset then (← f.setOffset offset).zoned? else none

end RowStream.Calendar

import RowStream.Calendar.Instant

/-! # Dates and times from the fields of a text -/
namespace RowStream.Calendar

structure Fields where
  year : Option Int := none
  yearOfCentury : Option Nat := none
  month : Option Nat := none
  day : Option Nat := none
  weekday : Option Nat := none
  half : Option Nat := none
  hourOfHalf : Option Nat := none
  minute : Option Nat := none
  second : Option Nat := none
  nanos : Option Nat := none
  offset : Option Int := none
deriving Repr, DecidableEq

namespace Fields

/-- A field that is named twice has to agree with itself. -/
def agree {α : Type} [DecidableEq α] (old : Option α) (new : α) : Option (Option α) :=
  match old with
  | some o => if o = new then some (some new) else none
  | none => some (some new)

def between (low high n : Nat) : Option Nat := if low ≤ n ∧ n ≤ high then some n else none

def setYear (f : Fields) (n : Int) : Option Fields := do
  if -2147483648 ≤ n ∧ n ≤ 2147483647 then some { f with year := ← agree f.year n } else none

def setYearOfCentury (f : Fields) (n : Nat) : Option Fields := do
  some { f with yearOfCentury := ← agree f.yearOfCentury (← between 0 99 n) }

def setMonth (f : Fields) (n : Nat) : Option Fields := do
  some { f with month := ← agree f.month (← between 1 12 n) }

def setDay (f : Fields) (n : Nat) : Option Fields := do
  some { f with day := ← agree f.day (← between 1 31 n) }

def setWeekday (f : Fields) (n : Nat) : Option Fields := do
  some { f with weekday := ← agree f.weekday n }

def setHalf (f : Fields) (n : Nat) : Option Fields := do
  some { f with half := ← agree f.half n }

def setHour (f : Fields) (n : Nat) : Option Fields := do
  let n ← between 0 23 n
  some { f with half := ← agree f.half (n / 12), hourOfHalf := ← agree f.hourOfHalf (n % 12) }

def setHour12 (f : Fields) (n : Nat) : Option Fields := do
  some { f with hourOfHalf := ← agree f.hourOfHalf ((← between 1 12 n) % 12) }

def setMinute (f : Fields) (n : Nat) : Option Fields := do
  some { f with minute := ← agree f.minute (← between 0 59 n) }

def setSecond (f : Fields) (n : Nat) : Option Fields := do
  some { f with second := ← agree f.second (← between 0 60 n) }

def setNanos (f : Fields) (n : Nat) : Option Fields := do
  some { f with nanos := ← agree f.nanos (← between 0 (nanosPerSecond - 1) n) }

def setOffset (f : Fields) (n : Int) : Option Fields := do
  some { f with offset := ← agree f.offset n }

/-- Two digits mean a year from 1970 to 2069; beside a full year they have to match it. -/
def fullYear? (f : Fields) : Option Int :=
  match f.year, f.yearOfCentury with
  | some y, none => some y
  | some y, some r => if 0 ≤ y ∧ y % 100 = r then some y else none
  | none, some r => some (if r < 70 then r + 2000 else r + 1900)
  | none, none => none

/-- Year, month and day are needed; a weekday has to be the right one. -/
def date? (f : Fields) : Option Date := do
  let d ← Date.ofCivil? (← f.fullYear?) (← f.month) (← f.day)
  if f.weekday.getD d.weekday = d.weekday then some d else none

/-- Hour and minute are needed, a fraction needs a second; second 60 is the leap second. -/
def time? (f : Fields) : Option Time := do
  let hour := (← f.half) * 12 + (← f.hourOfHalf)
  let minute ← f.minute
  let (second, leap) := if f.second = some 60 then (59, nanosPerSecond) else (f.second.getD 0, 0)
  if f.second.isNone && f.nanos.isSome then none
  else Time.ofClock? hour minute second (leap + f.nanos.getD 0)

def wallClock? (f : Fields) : Option Instant := do
  some (Instant.ofDateTime (← f.date?) (← f.time?))

def zoned? (f : Fields) : Option Zoned := do
  Zoned.ofWallClock? (← f.wallClock?) (← f.offset)

end Fields
end RowStream.Calendar

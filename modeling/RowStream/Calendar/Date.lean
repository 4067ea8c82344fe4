/-! # Dates of the proleptic Gregorian calendar -/
namespace RowStream.Calendar

def isLeapYear (y : Int) : Bool := y % 4 = 0 && (y % 100 ≠ 0 || y % 400 = 0)

def daysInMonth (y : Int) (m : Nat) : Nat :=
  if m = 2 then (if isLeapYear y then 29 else 28)
  else if m = 4 ∨ m = 6 ∨ m = 9 ∨ m = 11 then 30 else 31

/-- The days from 1970-01-01 to a day of a year that begins in March: the months from March have
31, 30, 31, 30, 31 days over and over. -/
def dayNumber (y : Int) (m d : Nat) : Int :=
  let marchYear := if m ≤ 2 then y - 1 else y
  let era := marchYear / 400
  let yearOfEra := marchYear % 400
  let monthFromMarch : Int := if m ≤ 2 then m + 9 else (m : Int) - 3
  let dayOfYear := (153 * monthFromMarch + 2) / 5 + d - 1
  era * 146097 + (yearOfEra * 365 + yearOfEra / 4 - yearOfEra / 100 + dayOfYear) - 719468

def civil (n : Int) : Int × Nat × Nat :=
  let era := (n + 719468) / 146097
  let dayOfEra := (n + 719468) % 146097
  let yearOfEra := (dayOfEra - dayOfEra / 1460 + dayOfEra / 36524 - dayOfEra / 146096) / 365
  let dayOfYear := dayOfEra - (365 * yearOfEra + yearOfEra / 4 - yearOfEra / 100)
  let monthFromMarch := (5 * dayOfYear + 2) / 153
  let d := dayOfYear - (153 * monthFromMarch + 2) / 5 + 1
  let m := if monthFromMarch < 10 then monthFromMarch + 3 else monthFromMarch - 9
  (yearOfEra + era * 400 + (if m ≤ 2 then 1 else 0), m.toNat, d.toNat)

def weekdayOf (n : Int) : Nat := ((n + 3) % 7).toNat

def minYear : Int := -262143
def maxYear : Int := 262142
def minDay : Int := -96465292
def maxDay : Int := 95026236

/-- A day, held as the number of days since 1970-01-01. -/
structure Date where
  day : Int
  inRange : minDay ≤ day ∧ day ≤ maxDay
deriving Repr, DecidableEq

namespace Date

instance : Inhabited Date := ⟨⟨0, by decide⟩⟩

def ofDay? (n : Int) : Option Date :=
  if h : minDay ≤ n ∧ n ≤ maxDay then some ⟨n, h⟩ else none

@[simp] theorem ofDay?_day (d : Date) : ofDay? d.day = some d := by simp [ofDay?, d.inRange]

theorem ofDay?_eq_some {n : Int} {d : Date} : ofDay? n = some d ↔ d.day = n := by
  constructor
  · intro h
    unfold ofDay? at h
    split at h
    · cases h; rfl
    · cases h
  · rintro rfl
    exact ofDay?_day d

/-- A day of the calendar within the supported years. -/
def ofCivil? (y : Int) (m d : Nat) : Option Date :=
  if minYear ≤ y ∧ y ≤ maxYear ∧ 1 ≤ m ∧ m ≤ 12 ∧ 1 ≤ d ∧ d ≤ daysInMonth y m then
    ofDay? (dayNumber y m d)
  else none

def civil (d : Date) : Int × Nat × Nat := Calendar.civil d.day
def weekday (d : Date) : Nat := weekdayOf d.day

end Date
end RowStream.Calendar

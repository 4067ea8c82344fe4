import RowStream.Calendar.Date

/-! # Times of day and instants, with and without a zone -/
namespace RowStream.Calendar

def secondsPerDay : Nat := 86400
def nanosPerSecond : Nat := 1000000000

/-- A time of day. From one second of nanos on it lies in the leap second after `second`. -/
structure Time where
  second : Nat
  nanos : Nat
  second_lt : second < secondsPerDay
  nanos_lt : nanos < 2 * nanosPerSecond
deriving Repr, DecidableEq

namespace Time

instance : Inhabited Time := ⟨⟨0, 0, by decide, by decide⟩⟩

/-- A leap second can only follow the last second of a minute. -/
def ofParts? (second nanos : Nat) : Option Time :=
  if h : second < secondsPerDay ∧ nanos < 2 * nanosPerSecond then
    if nanosPerSecond ≤ nanos ∧ second % 60 ≠ 59 then none else some ⟨second, nanos, h.1, h.2⟩
  else none

/-- Without a leap second only the second of the day can be out of range. -/
theorem ofParts?_eq_some {second nanos : Nat} (whole : nanos < nanosPerSecond) {t : Time} :
    ofParts? second nanos = some t ↔ t.second = second ∧ t.nanos = nanos := by
  have noLeap : ¬(nanosPerSecond ≤ nanos ∧ second % 60 ≠ 59) := fun leap => Nat.not_le.mpr whole leap.1
  constructor
  · intro found
    by_cases inside : second < secondsPerDay ∧ nanos < 2 * nanosPerSecond
    · rw [ofParts?, dif_pos inside, if_neg noLeap] at found
      cases found
      exact ⟨rfl, rfl⟩
    · rw [ofParts?, dif_neg inside] at found
      cases found
  · rintro ⟨rfl, rfl⟩
    rw [ofParts?, dif_pos ⟨t.second_lt, t.nanos_lt⟩, if_neg noLeap]

def ofClock? (hour minute second nanos : Nat) : Option Time :=
  if hour < 24 ∧ minute < 60 ∧ second < 60 then ofParts? (hour * 3600 + minute * 60 + second) nanos
  else none

def hour (t : Time) : Nat := t.second / 3600
def minute (t : Time) : Nat := t.second / 60 % 60
def secondOfMinute (t : Time) : Nat := t.second % 60

end Time

def minSecond : Int := minDay * secondsPerDay
def maxSecond : Int := maxDay * secondsPerDay + (secondsPerDay - 1)

/-- Seconds since 1970-01-01 00:00:00 and nanos, which are never negative. A wall clock without a
zone is the instant at which a clock of offset zero shows it. -/
structure Instant where
  second : Int
  nanos : Nat
  inRange : minSecond ≤ second ∧ second ≤ maxSecond
  nanos_lt : nanos < 2 * nanosPerSecond
deriving Repr, DecidableEq

namespace Instant

instance : Inhabited Instant := ⟨⟨0, 0, by decide, by decide⟩⟩

def ofSecond? (second : Int) (nanos : Nat) : Option Instant :=
  if h : (minSecond ≤ second ∧ second ≤ maxSecond) ∧ nanos < 2 * nanosPerSecond then
    some ⟨second, nanos, h.1, h.2⟩
  else none

def ofParts? (second : Int) (nanos : Nat) : Option Instant :=
  if nanosPerSecond ≤ nanos ∧ second % 60 ≠ 59 then none else ofSecond? second nanos

/-- Without a leap second only the second can be out of range. -/
theorem ofParts?_eq_some {second : Int} {nanos : Nat} (whole : nanos < nanosPerSecond) {i : Instant} :
    ofParts? second nanos = some i ↔ i.second = second ∧ i.nanos = nanos := by
  have noLeap : ¬(nanosPerSecond ≤ nanos ∧ second % 60 ≠ 59) := fun leap => Nat.not_le.mpr whole leap.1
  rw [ofParts?, if_neg noLeap]
  constructor
  · intro found
    unfold ofSecond? at found
    split at found
    · cases found
      exact ⟨rfl, rfl⟩
    · cases found
  · rintro ⟨rfl, rfl⟩
    rw [ofSecond?, dif_pos ⟨i.inRange, i.nanos_lt⟩]

def ofDateTime (d : Date) (t : Time) : Instant where
  second := d.day * secondsPerDay + t.second
  nanos := t.nanos
  inRange := by
    have := d.inRange
    have := t.second_lt
    simp only [minSecond, maxSecond, secondsPerDay] at *
    omega
  nanos_lt := t.nanos_lt

def date (i : Instant) : Date where
  day := i.second / secondsPerDay
  inRange := by
    have := i.inRange
    simp only [minSecond, maxSecond, secondsPerDay] at *
    omega

def time (i : Instant) : Time where
  second := (i.second % secondsPerDay).toNat
  nanos := i.nanos
  second_lt := by simp only [secondsPerDay]; omega
  nanos_lt := i.nanos_lt

theorem ofDateTime_date_time (i : Instant) : ofDateTime i.date i.time = i := by
  cases i with
  | mk s n _ _ =>
    simp only [ofDateTime, date, time, Instant.mk.injEq, and_true]
    simp only [secondsPerDay]
    omega

end Instant

/-- An instant with the offset of the clock that shows it, in seconds east. -/
structure Zoned where
  instant : Instant
  offset : Int
  offset_lt : offset.natAbs < secondsPerDay
deriving Repr, DecidableEq

namespace Zoned

def ofOffset? (instant : Instant) (offset : Int) : Option Zoned :=
  if h : offset.natAbs < secondsPerDay then some ⟨instant, offset, h⟩ else none

def utc (i : Instant) : Zoned := ⟨i, 0, by decide⟩

def wallClock? (z : Zoned) : Option Instant := Instant.ofSecond? (z.instant.second + z.offset) z.instant.nanos

/-- The instant at which a clock of the given offset shows the wall clock. -/
def ofWallClock? (wall : Instant) (offset : Int) : Option Zoned := do
  ofOffset? (← Instant.ofSecond? (wall.second - offset) wall.nanos) offset

end Zoned
end RowStream.Calendar

import RowStream.Calendar.Instant

/-! # Days and their dates

An era of 400 years has 146097 days: four centuries of 36524 days and the last of its leap days. The date of a
day number has that day number, and is a date of the calendar. -/
namespace RowStream.Calendar

/-- A day of an era: centuries of 36524 days, then four years of 1461, then years of 365. What has one day
more is the last part of each, so only there the last day is 365. -/
structure EraDay (dayOfEra century quad year day : Int) : Prop where
  sum : dayOfEra = 36524 * century + 1461 * quad + 365 * year + day
  century_mem : 0 ≤ century ∧ century ≤ 3
  quad_mem : 0 ≤ quad ∧ quad ≤ 24
  year_mem : 0 ≤ year ∧ year ≤ 3
  day_mem : 0 ≤ day ∧ day ≤ 365
  leapDay : day = 365 → year = 3 ∧ (quad = 24 → century = 3)

namespace EraDay
variable {dayOfEra century quad year day : Int}

theorem exists_eraDay (low : 0 ≤ dayOfEra) (high : dayOfEra < 146097) :
    ∃ century quad year day, EraDay dayOfEra century quad year day := by
  obtain ⟨century, inCentury, c⟩ : ∃ century inCentury : Int, dayOfEra = 36524 * century + inCentury ∧
      0 ≤ century ∧ century ≤ 3 ∧ 0 ≤ inCentury ∧ inCentury ≤ 36524 ∧ (inCentury = 36524 → century = 3) := by
    by_cases last : dayOfEra = 146096
    · exact ⟨3, 36524, by omega⟩
    · exact ⟨dayOfEra / 36524, dayOfEra % 36524, by omega⟩
  obtain ⟨year, day, y⟩ : ∃ year day : Int, inCentury % 1461 = 365 * year + day ∧
      0 ≤ year ∧ year ≤ 3 ∧ 0 ≤ day ∧ day ≤ 365 ∧ (day = 365 → year = 3) := by
    by_cases last : inCentury % 1461 = 1460
    · exact ⟨3, 365, by omega⟩
    · exact ⟨inCentury % 1461 / 365, inCentury % 1461 % 365, by omega⟩
  exact ⟨century, inCentury / 1461, year, day, by omega, by omega, by omega, by omega, by omega, by omega⟩

variable (h : EraDay dayOfEra century quad year day)
include h

/-- The division by 365, once the leap days before are taken out. -/
theorem yearOfEra_eq :
    (dayOfEra - dayOfEra / 1460 + dayOfEra / 36524 - dayOfEra / 146096) / 365 = 100 * century + 4 * quad + year := by
  obtain ⟨sum, century_mem, quad_mem, year_mem, day_mem, leapDay⟩ := h
  have centuries : dayOfEra / 36524 - dayOfEra / 146096 = century := by
    have early : dayOfEra = 146096 ∨ 1461 * quad + 365 * year + day < 36524 := by omega
    rcases early with rfl | early
    · omega
    · have first : dayOfEra / 36524 = century := by omega
      have none : dayOfEra / 146096 = 0 := by omega
      omega
  obtain ⟨carry, quads, small⟩ : ∃ carry, dayOfEra / 1460 = 25 * century + quad + carry ∧
      0 ≤ day - carry ∧ day - carry < 365 := by
    by_cases beyond : 1460 ≤ 24 * century + quad + 365 * year + day
    · exact ⟨1, by omega, by omega⟩
    · exact ⟨0, by omega, by omega⟩
  omega

theorem dayOfYear_eq : dayOfEra - (365 * (100 * century + 4 * quad + year) + (100 * century + 4 * quad + year) / 4 -
    (100 * century + 4 * quad + year) / 100) = day := by
  obtain ⟨sum, century_mem, quad_mem, year_mem, day_mem, leapDay⟩ := h
  omega

end EraDay

theorem isLeapYear_eq_true {y : Int} : isLeapYear y = true ↔ y % 4 = 0 ∧ (y % 100 ≠ 0 ∨ y % 400 = 0) := by
  simp [isLeapYear]

theorem daysInMonth_le (y : Int) (m : Nat) : daysInMonth y m ≤ 31 := by
  rw [daysInMonth]
  split
  · split <;> decide
  · split <;> decide

/-- The month and the day of the month of a day of a year that begins in March. -/
structure MonthDay (y day : Int) (m d : Nat) : Prop where
  month_mem : 1 ≤ m ∧ m ≤ 12
  day_mem : 1 ≤ d ∧ d ≤ daysInMonth y m
  sum : day = (153 * (if m ≤ 2 then (m : Int) + 9 else m - 3) + 2) / 5 + d - 1

/-- The first of January is day 306. -/
theorem MonthDay.late {y day : Int} {m d : Nat} (h : MonthDay y day m d) : m ≤ 2 ↔ 306 ≤ day := by
  obtain ⟨⟨low, high⟩, ⟨first, last⟩, sum⟩ := h
  have short := daysInMonth_le y m
  split at sum <;> omega

/-- January and February come tenth and eleventh after March. -/
def monthOf (fromMarch : Int) : Int := if fromMarch < 10 then fromMarch + 3 else fromMarch - 9

theorem exists_monthDay {y day : Int} (day_mem : 0 ≤ day ∧ day ≤ 365) (leapDay : day = 365 → isLeapYear y = true) :
    MonthDay y day (monthOf ((5 * day + 2) / 153)).toNat
      (day - (153 * ((5 * day + 2) / 153) + 2) / 5 + 1).toNat := by
  have month_mem : 0 ≤ (5 * day + 2) / 153 ∧ (5 * day + 2) / 153 ≤ 11 := by omega
  rw [monthOf]
  generalize fromMarch : (5 * day + 2) / 153 = month at *
  constructor
  · omega
  · by_cases february : month = 11
    · subst february
      by_cases last : day = 365
      · simp [daysInMonth, leapDay last, last]
      · have short : 28 ≤ daysInMonth y 2 := by
          rw [daysInMonth, if_pos rfl]
          split <;> decide
        simp
        omega
    · obtain rfl | rfl | rfl | rfl | rfl | rfl | rfl | rfl | rfl | rfl | rfl :
          month = 0 ∨ month = 1 ∨ month = 2 ∨ month = 3 ∨ month = 4 ∨ month = 5 ∨ month = 6 ∨ month = 7 ∨
            month = 8 ∨ month = 9 ∨ month = 10 := by omega
      all_goals simp [daysInMonth]; omega
  · omega

theorem civil_eq {n century quad year day : Int} (h : EraDay ((n + 719468) % 146097) century quad year day) :
    civil n = (100 * century + 4 * quad + year + (n + 719468) / 146097 * 400 +
        (if monthOf ((5 * day + 2) / 153) ≤ 2 then 1 else 0), (monthOf ((5 * day + 2) / 153)).toNat,
      (day - (153 * ((5 * day + 2) / 153) + 2) / 5 + 1).toNat) := by
  have yearOfEra := h.yearOfEra_eq
  simp only [civil, yearOfEra, h.dayOfYear_eq, monthOf]
  rfl

theorem EraDay.isLeapYear {dayOfEra century quad year era : Int} (h : EraDay dayOfEra century quad year 365) :
    Calendar.isLeapYear (100 * century + 4 * quad + year + era * 400 + 1) = true := by
  obtain ⟨_, century_mem, quad_mem, _, _, leapDay⟩ := h
  obtain ⟨last, lastQuad⟩ := leapDay rfl
  rw [isLeapYear_eq_true]
  omega

section
variable {n era dayOfEra century quad year day y : Int} {m d : Nat} (h : EraDay dayOfEra century quad year day)
  (split : n + 719468 = 146097 * era + dayOfEra)
  (yearIs : y = 100 * century + 4 * quad + year + era * 400 + (if m ≤ 2 then 1 else 0)) (month : MonthDay y day m d)
include h split yearIs month

theorem dayNumber_eq : dayNumber y m d = n := by
  obtain ⟨sum, century_mem, quad_mem, year_mem, day_mem, leapDay⟩ := h
  have marchYear : (if m ≤ 2 then y - 1 else y) = 100 * century + 4 * quad + year + era * 400 := by
    rw [yearIs]
    split <;> omega
  have dayOfYear := month.sum
  simp only [dayNumber, marchYear, ← dayOfYear]
  omega

theorem year_mem_of_day_mem (inside : minDay ≤ n ∧ n ≤ maxDay) : minYear ≤ y ∧ y ≤ maxYear := by
  obtain ⟨sum, century_mem, quad_mem, year_mem, day_mem, leapDay⟩ := h
  have late : m ≤ 2 ↔ 306 ≤ day := month.late
  clear month
  simp only [minDay, maxDay, minYear, maxYear] at *
  constructor
  · by_cases first : -656 < era
    · split at yearIs <;> omega
    · obtain rfl : era = -656 := by omega
      split at yearIs <;> omega
  · by_cases first : era < 655
    · split at yearIs <;> omega
    · obtain rfl : era = 655 := by omega
      split at yearIs <;> omega

end

/-- The date of a day number is a date of the calendar and has this day number. -/
theorem exists_civil (n : Int) : ∃ y m d, civil n = (y, m, d) ∧ (1 ≤ m ∧ m ≤ 12) ∧ (1 ≤ d ∧ d ≤ daysInMonth y m) ∧
    dayNumber y m d = n ∧ (minDay ≤ n ∧ n ≤ maxDay → minYear ≤ y ∧ y ≤ maxYear) := by
  have low : 0 ≤ (n + 719468) % 146097 := by omega
  have high : (n + 719468) % 146097 < 146097 := by omega
  obtain ⟨century, quad, year, day, h⟩ := EraDay.exists_eraDay low high
  have split : n + 719468 = 146097 * ((n + 719468) / 146097) + (n + 719468) % 146097 := by omega
  have written := civil_eq h
  have small : monthOf ((5 * day + 2) / 153) ≤ 2 ↔ (monthOf ((5 * day + 2) / 153)).toNat ≤ 2 := by omega
  simp only [small] at written
  have leap : day = 365 → isLeapYear (100 * century + 4 * quad + year + (n + 719468) / 146097 * 400 +
      (if (monthOf ((5 * day + 2) / 153)).toNat ≤ 2 then 1 else 0)) = true := by
    rintro rfl
    exact h.isLeapYear
  have month := exists_monthDay h.day_mem leap
  exact ⟨_, _, _, written, month.month_mem, month.day_mem, dayNumber_eq h split rfl month,
    year_mem_of_day_mem h split rfl month⟩

namespace Date

/-- Every date can be put together from its year, month and day. -/
theorem ofCivil?_civil (d : Date) : ofCivil? d.civil.1 d.civil.2.1 d.civil.2.2 = some d := by
  obtain ⟨y, m, day, written, month_mem, day_mem, number, year_mem⟩ := exists_civil d.day
  have year_mem := year_mem d.inRange
  rw [civil, written, ofCivil?, if_pos ⟨year_mem.1, year_mem.2, month_mem.1, month_mem.2, day_mem⟩, number, ofDay?_day]

end Date

end RowStream.Calendar

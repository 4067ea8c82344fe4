import RowStream.Proofs.CalendarDays
import RowStream.Proofs.ClockValues
import RowStream.Proofs.PaddedTexts

/-! # Reading dates and times as they are written

Dates, times of day and offsets are digits of known widths with marks between them, years of more than four digits
and years before 0 have a sign. The ISO layouts read each of them back, whatever follows. -/
namespace RowStream.Calendar
open RowStream.Text RowStream.Number RowStream.Number.Decimal RowStream.Calendar.Pattern

/-- The characters that dates, times and offsets are written with. -/
def Stamped (c : Char) : Prop := isDigit c = true ∨ c ∈ ['-', '+', ':', '.', 'T']

theorem Stamped.not_blank {c : Char} (h : Stamped c) : isBlank c = false := by
  rcases h with digit | mark
  · exact isBlank_of_isDigit digit
  · simp only [List.mem_cons, List.not_mem_nil, or_false] at mark
    rcases mark with rfl | rfl | rfl | rfl | rfl <;> rfl

theorem stamped_padded {width n : Nat} {c : Char} (member : c ∈ padded width n) : Stamped c :=
  .inl (allDigits_iff.mp (allDigits_padded width n) c member)

theorem stamped_dayChars {n : Int} {c : Char} (member : c ∈ dayChars n) : Stamped c := by
  have year : ∀ {y : Int}, c ∈ yearChars y → Stamped c := by
    intro y inYear
    rw [yearChars] at inYear
    split at inYear
    · exact stamped_padded inYear
    · rcases List.mem_cons.mp inYear with sign | digit
      · split at sign <;> exact .inr (by simp [sign])
      · exact stamped_padded digit
  simp only [dayChars, List.mem_append, List.mem_cons] at member
  rcases member with digit | rfl | digit | rfl | digit
  · exact year digit
  · exact .inr (by simp)
  · exact stamped_padded digit
  · exact .inr (by simp)
  · exact stamped_padded digit

theorem stamped_clockChars {second nanos : Nat} {c : Char} (member : c ∈ clockChars second nanos) : Stamped c := by
  have fraction : ∀ {n : Nat}, c ∈ fractionChars n → Stamped c := by
    intro n inFraction
    rw [fractionChars] at inFraction
    split at inFraction
    · cases inFraction
    · have point : ∀ {width m : Nat}, c ∈ '.' :: padded width m → Stamped c := by
        intro width m inPadded
        rcases List.mem_cons.mp inPadded with rfl | digit
        · exact .inr (by simp)
        · exact stamped_padded digit
      split at inFraction
      · exact point inFraction
      · split at inFraction <;> exact point inFraction
  simp only [clockChars, List.mem_append, List.mem_cons] at member
  rcases member with digit | rfl | digit | rfl | digit | digit
  · exact stamped_padded digit
  · exact .inr (by simp)
  · exact stamped_padded digit
  · exact .inr (by simp)
  · exact stamped_padded digit
  · exact fraction digit

theorem stamped_offsetChars {offset : Int} {c : Char} (member : c ∈ offsetChars offset) : Stamped c := by
  simp only [offsetChars, List.mem_append, List.mem_cons] at member
  rcases member with sign | digit | rfl | digit
  · split at sign <;> exact .inr (by simp [sign])
  · exact stamped_padded digit
  · exact .inr (by simp)
  · exact stamped_padded digit

def Ends (rest : List Char) : Prop := ∀ c, rest.head? = some c → isDigit c = false

theorem Ends.takeWhile {rest : List Char} (ends : Ends rest) : rest.takeWhile isDigit = [] := by
  cases rest with
  | nil => rfl
  | cons c rest => rw [List.takeWhile_cons_of_neg (by simp [ends c rfl])]

theorem Ends.take {rest : List Char} (ends : Ends rest) (count : Nat) : Ends (rest.take count) := by
  cases count with
  | zero => nofun
  | succ count => cases rest with
    | nil => nofun
    | cons c rest => exact ends

variable {digits rest : List Char} {least most : Nat}

/-- A run of digits is read whole, if it is as long as may be or no digit comes next. -/
theorem digits?_run (areDigits : allDigits digits = true) (enough : least ≤ digits.length) (few : digits.length ≤ most)
    (small : digits.length ≤ 18) (stop : digits.length = most ∨ Ends rest) :
    digits? least most (digits ++ rest) = some (ofDigits digits, rest) := by
  have tail : (rest.take (most - digits.length)).takeWhile isDigit = [] := by
    rcases stop with full | ends
    · rw [full, Nat.sub_self, List.take_zero, List.takeWhile_nil]
    · exact (ends.take _).takeWhile
  have run : ((digits ++ rest).take most).takeWhile isDigit = digits := by
    rw [List.take_append, List.take_of_length_le few, List.takeWhile_append_of_pos (allDigits_iff.mp areDigits), tail,
      List.append_nil]
  have word : ¬Range.int64.high < (ofDigits digits : Int) := by
    have wide : ofDigits digits < 10 ^ 18 := (ofDigits_lt areDigits).trans_le (Nat.pow_le_pow_right (by decide) small)
    simp only [Range.int64]
    omega
  simp only [digits?, run]
  rw [if_neg (by omega), List.drop_left]

theorem digits?_two {n : Nat} (fits : n < 100) : digits? 2 2 (padded 2 n ++ rest) = some (n, rest) := by
  have length : (padded 2 n).length = 2 := length_padded (by decide) fits
  have read : digits? 2 2 (padded 2 n ++ rest) = some (ofDigits (padded 2 n), rest) :=
    digits?_run (allDigits_padded 2 n) length.ge length.le (by omega) (.inl length)
  rwa [value_padded] at read

/-- Digits after a point are tenths, hundredths and so on. -/
theorem nanos?_run (areDigits : allDigits digits = true) (enough : 1 ≤ digits.length) (few : digits.length ≤ 9)
    (ends : Ends rest) : nanos? (digits ++ rest) = some (ofDigits digits * 10 ^ (9 - digits.length), rest) := by
  have left : rest.dropWhile isDigit = rest := by
    cases rest with
    | nil => rfl
    | cons c rest => exact List.dropWhile_cons_of_neg (by simp [ends c rfl])
  have read : (digits ++ rest).length - rest.length = digits.length := by
    rw [List.length_append, Nat.add_sub_cancel]
  simp only [nanos?, digits?_run areDigits enough few (by omega) (.inr ends), Option.bind_eq_bind, Option.bind_some,
    read, left]
  rfl

theorem trimLeft_yearChars (y : Int) (rest : List Char) : trimLeft (yearChars y ++ rest) = yearChars y ++ rest := by
  rw [yearChars]
  split
  · rename_i plain
    exact trimLeft_padded (by decide) (by omega) rest
  · rw [List.cons_append]
    refine trimLeft_of_head ?_
    split <;> rfl

theorem signedDigits?_padded {n : Nat} (fits : n < 10 ^ 18) (ends : Ends rest) :
    signedDigits? (padded 4 n ++ rest) = some (n, rest) := by
  have short : (padded 4 n).length ≤ 18 := by
    have := (Nat.length_toDigits_le_iff (b := 10) (by decide) (show 0 < 18 by decide)).mpr fits
    rw [padded, List.length_append, List.length_replicate]
    omega
  have filled : 1 ≤ (padded 4 n).length := by
    rw [padded, List.length_append, List.length_replicate]
    omega
  have read : signedDigits? (padded 4 n ++ rest) = some (ofDigits (padded 4 n), rest) :=
    digits?_run (allDigits_padded 4 n) filled (by simp) short (.inr ends)
  rwa [value_padded] at read

/-- A year is read back up to the mark after it. -/
theorem year?_yearChars {y : Int} (small : y.natAbs < 10 ^ 18) (ends : Ends rest) :
    year? (yearChars y ++ rest) = some (y, rest) := by
  rw [yearChars]
  split
  · rename_i plain
    rw [year?_padded (by omega), Int.toNat_of_nonneg plain.1]
  · rename_i signed
    have read := signedDigits?_padded small ends
    by_cases negative : y < 0
    · rw [if_pos negative, List.cons_append, year?, read]
      simp only [Option.map_some, Option.some.injEq, Prod.mk.injEq, and_true]
      omega
    · rw [if_neg negative, List.cons_append, year?, read]
      simp only [Option.map_some, Option.some.injEq, Prod.mk.injEq, and_true]
      omega

def Date.fields (d : Date) : Fields where
  year := some d.civil.1
  month := some d.civil.2.1
  day := some d.civil.2.2

def dateItems : List Item := [.field .year, .literal '-', .field .month, .literal '-', .field .day]

theorem readAll_day (d : Date) (more : List Item) (rest : List Char) :
    readAll (dateItems ++ more) {} (dayChars d.day ++ rest) = readAll more d.fields rest := by
  obtain ⟨y, m, day, written, month_mem, day_mem, -, year_mem⟩ := exists_civil d.day
  have short := daysInMonth_le y m
  obtain ⟨low, high⟩ := year_mem d.inRange
  simp only [minYear, maxYear] at low high
  have civil : d.civil = (y, m, day) := written
  have mark : ∀ more, Ends ('-' :: more) := by
    intro more c first
    cases first
    rfl
  have year : ∀ more, readField .year {} (yearChars y ++ '-' :: more) = some ({ year := some y }, '-' :: more) := by
    intro more
    have inWord : -2147483648 ≤ y ∧ y ≤ 2147483647 := by omega
    simp [readField, trimLeft_yearChars, year?_yearChars (show y.natAbs < 10 ^ 18 by omega) (mark more), store,
      Fields.setYear, inWord, Fields.agree]
  have two : ∀ n more, n < 100 → digits? 1 2 (trimLeft (padded 2 n ++ more)) = some (n, more) := by
    intro n more fits
    rw [trimLeft_padded (by decide) fits]
    exact digits?_padded (by decide) fits (by decide) more
  have month : ∀ more, digits? 1 2 (trimLeft (padded 2 m ++ more)) = some (m, more) := fun more => two m more (by omega)
  have dayOf : ∀ more, digits? 1 2 (trimLeft (padded 2 day ++ more)) = some (day, more) :=
    fun more => two day more (by omega)
  have day_le : 1 ≤ day ∧ day ≤ 31 := by omega
  simp only [dayChars, written, dateItems, List.cons_append, List.nil_append, List.append_assoc, readAll, readItem,
    year, Option.bind_eq_bind, Option.bind_some, if_true]
  simp [readField, month, dayOf, store, Fields.setMonth, Fields.setDay, Fields.between, Fields.agree, month_mem, day_le,
    Date.fields, civil]

theorem date?_fields (d : Date) : d.fields.date? = some d := by
  simp only [Fields.date?, Fields.fullYear?, Date.fields, Option.bind_eq_bind, Option.bind_some, Date.ofCivil?_civil]
  simp

namespace Time

/-- One in a leap second, which is shown as second 60. -/
def leap (t : Time) : Nat := if nanosPerSecond ≤ t.nanos then 1 else 0

def fraction (t : Time) : Nat := t.nanos - t.leap * nanosPerSecond

theorem fraction_lt (t : Time) : t.fraction < nanosPerSecond := by
  have := t.nanos_lt
  rw [fraction, leap]
  split <;> omega

theorem leap_add_fraction (t : Time) : t.leap * nanosPerSecond + t.fraction = t.nanos := by
  rw [fraction, leap]
  split <;> omega

end Time

/-- What is known once a time of day has been read as well. No fraction is written for whole seconds. -/
def Fields.withClock (f : Fields) (hour minute second fraction : Nat) : Fields where
  __ := f
  half := some (hour / 12)
  hourOfHalf := some (hour % 12)
  minute := some minute
  second := some second
  nanos := if fraction = 0 then none else some fraction

def Fields.withTime (f : Fields) (t : Time) : Fields :=
  f.withClock t.hour t.minute (t.secondOfMinute + t.leap) t.fraction

structure Fields.Clockless (f : Fields) : Prop where
  half : f.half = none
  hourOfHalf : f.hourOfHalf = none
  minute : f.minute = none
  second : f.second = none
  nanos : f.nanos = none

def timeItems : List Item := [.field .hour, .literal ':', .field .minute, .literal ':', .field .second,
    .field .fraction]

/-- A fraction has as many digits as it needs, or there is none. -/
theorem fractionChars_eq {nanos : Nat} (below : nanos < nanosPerSecond) :
    (nanos = 0 ∧ fractionChars nanos = []) ∨
      nanos ≠ 0 ∧ ∃ width m, fractionChars nanos = '.' :: padded width m ∧ (0 < width ∧ width ≤ 9) ∧ m < 10 ^ width ∧
        m * 10 ^ (9 - width) = nanos := by
  simp only [nanosPerSecond] at below
  rw [fractionChars]
  split
  · exact .inl ⟨‹_›, rfl⟩
  · refine .inr ⟨‹_›, ?_⟩
    split
    · exact ⟨3, nanos / 1000000, rfl, by decide, by omega, by omega⟩
    · split
      · exact ⟨6, nanos / 1000, rfl, by decide, by omega, by omega⟩
      · exact ⟨9, nanos, rfl, by decide, by omega, by omega⟩

/-- A fraction is read back; where none is written the text must not go on like one. -/
theorem readField_fractionChars {f : Fields} {nanos : Nat} (below : nanos < nanosPerSecond) (unknown : f.nanos = none)
    (ends : Ends rest) (noPoint : rest.head? ≠ some '.') : readField .fraction f (fractionChars nanos ++ rest) =
      some ({ f with nanos := if nanos = 0 then none else some nanos }, rest) := by
  rcases fractionChars_eq below with ⟨rfl, written⟩ | ⟨filled, width, m, written, ⟨positive, few⟩, fits, exact⟩
  · have same : { f with nanos := none } = f := by rw [← unknown]
    rw [written, List.nil_append, if_pos rfl, same]
    cases rest with
    | nil => rfl
    | cons c rest =>
      have other : c ≠ '.' := by
        rintro rfl
        exact noPoint rfl
      simp [readField, other]
  · have length := length_padded positive fits
    have read := nanos?_run (allDigits_padded width m) (by omega) (by omega) ends
    rw [value_padded, length, exact] at read
    have inside : nanos ≤ nanosPerSecond - 1 := by omega
    simp [written, readField, store, read, Fields.setNanos, Fields.between, inside, unknown, Fields.agree, filled]

theorem readAll_clock {f : Fields} (clockless : f.Clockless) {hour minute second fraction : Nat} (hour_le : hour ≤ 23)
    (minute_le : minute ≤ 59) (second_le : second ≤ 60) (below : fraction < nanosPerSecond) (more : List Item)
    (ends : Ends rest) (noPoint : rest.head? ≠ some '.') :
    readAll (timeItems ++ more) f (padded 2 hour ++ ':' :: (padded 2 minute ++
      ':' :: (padded 2 second ++ (fractionChars fraction ++ rest)))) =
        readAll more (f.withClock hour minute second fraction) rest := by
  have two : ∀ n more, n < 100 → digits? 1 2 (trimLeft (padded 2 n ++ more)) = some (n, more) := by
    intro n more fits
    rw [trimLeft_padded (by decide) fits]
    exact digits?_padded (by decide) fits (by decide) more
  obtain ⟨noHalf, noHour, noMinute, noSecond, noNanos⟩ := clockless
  have hourRead : ∀ more, readField .hour f (padded 2 hour ++ more) =
      some ({ f with half := some (hour / 12), hourOfHalf := some (hour % 12) }, more) := by
    intro more
    simp [readField, two hour more (by omega), store, Fields.setHour, Fields.between, hour_le, noHalf, noHour,
      Fields.agree]
  have minuteRead : ∀ f : Fields, f.minute = none → ∀ more,
      readField .minute f (padded 2 minute ++ more) = some ({ f with minute := some minute }, more) := by
    intro f unknown more
    simp [readField, two minute more (by omega), store, Fields.setMinute, Fields.between, minute_le, unknown,
      Fields.agree]
  have secondRead : ∀ f : Fields, f.second = none → ∀ more,
      readField .second f (padded 2 second ++ more) = some ({ f with second := some second }, more) := by
    intro f unknown more
    simp [readField, two second more (by omega), store, Fields.setSecond, Fields.between, second_le, unknown,
      Fields.agree]
  have fractionRead : ∀ f : Fields, f.nanos = none → readField .fraction f (fractionChars fraction ++ rest) =
      some ({ f with nanos := if fraction = 0 then none else some fraction }, rest) :=
    fun f unknown => readField_fractionChars below unknown ends noPoint
  simp only [timeItems, List.cons_append, List.nil_append, readAll, readItem, hourRead, minuteRead, secondRead,
    fractionRead, noMinute, noSecond, noNanos, Option.bind_eq_bind, Option.bind_some, if_true, Fields.withClock]

theorem readAll_time {f : Fields} (clockless : f.Clockless) (t : Time) (more : List Item) (ends : Ends rest)
    (noPoint : rest.head? ≠ some '.') : readAll (timeItems ++ more) f (clockChars t.second t.nanos ++ rest) =
      readAll more (f.withTime t) rest := by
  have below := t.second_lt
  simp only [secondsPerDay] at below
  have hour_le : t.hour ≤ 23 := by
    rw [Time.hour]
    omega
  have minute_le : t.minute ≤ 59 := by
    rw [Time.minute]
    omega
  have second_le : t.secondOfMinute + t.leap ≤ 60 := by
    rw [Time.secondOfMinute, Time.leap]
    split <;> omega
  have written : clockChars t.second t.nanos = padded 2 t.hour ++ ':' :: (padded 2 t.minute ++
      ':' :: (padded 2 (t.secondOfMinute + t.leap) ++ fractionChars t.fraction)) := by
    simp only [clockChars, Time.hour, Time.minute, Time.secondOfMinute, Time.fraction, Time.leap]
  have read := readAll_clock clockless hour_le minute_le second_le t.fraction_lt more ends noPoint
  simp only [written, List.append_assoc, List.cons_append]
  exact read

theorem date?_withTime (f : Fields) (t : Time) : (f.withTime t).date? = f.date? := rfl

/-- A time of day with at most a leap second that can be. -/
theorem time?_withTime {t : Time} (regular : t.Regular) (f : Fields) : (f.withTime t).time? = some t := by
  have below := t.second_lt
  simp only [secondsPerDay] at below
  have clock : t.hour < 24 ∧ t.minute < 60 ∧ t.secondOfMinute < 60 := by
    simp only [Time.hour, Time.minute, Time.secondOfMinute]
    omega
  have sum : t.hour * 3600 + t.minute * 60 + t.secondOfMinute = t.second := by
    simp only [Time.hour, Time.minute, Time.secondOfMinute]
    omega
  have hour : t.hour / 12 * 12 + t.hour % 12 = t.hour := Nat.div_add_mod' _ _
  have shown : (if t.secondOfMinute + t.leap = 60 then (59, nanosPerSecond) else (t.secondOfMinute + t.leap, 0)) =
      (t.secondOfMinute, t.leap * nanosPerSecond) := by
    by_cases leap : nanosPerSecond ≤ t.nanos
    · have last : t.secondOfMinute = 59 := regular leap
      rw [last, Time.leap, if_pos leap]
      rfl
    · have whole : t.leap = 0 := if_neg leap
      rw [whole, if_neg (by omega), Nat.zero_mul, Nat.add_zero]
  have nanos : (if t.fraction = 0 then none else some t.fraction).getD 0 = t.fraction := by
    split
    · rename_i none
      rw [none, Option.getD_none]
    · rw [Option.getD_some]
  have noLeap : ¬(nanosPerSecond ≤ t.nanos ∧ t.second % 60 ≠ 59) := fun other => other.2 (regular other.1)
  have put : Time.ofClock? t.hour t.minute t.secondOfMinute t.nanos = some t := by
    rw [Time.ofClock?, if_pos clock, sum, Time.ofParts?, dif_pos ⟨t.second_lt, t.nanos_lt⟩, if_neg noLeap]
  simp only [Fields.time?, Fields.withTime, Fields.withClock, Option.bind_eq_bind, Option.bind_some, hour,
    Option.some.injEq, shown,
    Option.getD_some, Option.isNone_some, Bool.false_and, nanos, t.leap_add_fraction, put]
  simp only [Bool.false_eq_true, if_false]

theorem readField_offsetChars {f : Fields} {offset : Int} (minutes : 60 ∣ offset)
    (bounded : offset.natAbs < secondsPerDay) (unknown : f.offset = none) (rest : List Char) :
    readField .colonOffset f (offsetChars offset ++ rest) = some ({ f with offset := some offset }, rest) := by
  simp only [secondsPerDay] at bounded
  obtain ⟨hours, mins, written, hours_lt, mins_lt, size⟩ : ∃ hours mins : Nat,
      offsetChars offset = (if offset < 0 then '-' else '+') :: (padded 2 hours ++ ':' :: padded 2 mins) ∧
        hours < 100 ∧ mins < 60 ∧ offset.natAbs = hours * 3600 + mins * 60 :=
    ⟨(offset.natAbs + 30) / 60 / 60, (offset.natAbs + 30) / 60 % 60, rfl, by omega, by omega, by omega⟩
  obtain ⟨d, ds, start, digit⟩ := exists_head_padded (show 0 < 2 by decide) (show mins < 10 ^ 2 by omega)
  have colon : colonsOrBlanks (':' :: (padded 2 mins ++ rest)) = some (padded 2 mins ++ rest) := by
    have other : (d == ':') = false := beq_false_of_ne (ne_of_isDigit digit rfl)
    simp [colonsOrBlanks, start, other, isBlank_of_isDigit digit]
  have parts : ∀ negative : Bool, offset? colonsOrBlanks false ((if negative then '-' else '+') ::
      (padded 2 hours ++ ':' :: (padded 2 mins ++ rest))) =
        some (if negative then -((hours : Int) * 3600 + mins * 60) else (hours : Int) * 3600 + mins * 60, rest) := by
    intro negative
    cases negative <;>
      simp [offset?, digits?_two hours_lt, digits?_two (show mins < 100 by omega), colon, mins_lt]
  have sign : isBlank (if offset < 0 then '-' else '+') = false := by split <;> rfl
  have read := parts (decide (offset < 0))
  simp only [decide_eq_true_eq] at read
  have whole : (if offset < 0 then -((hours : Int) * 3600 + mins * 60) else (hours : Int) * 3600 + mins * 60) =
      offset := by
    split <;> omega
  rw [whole] at read
  simp [written, readField, trimLeft_of_head sign, read, store, Fields.setOffset, unknown, Fields.agree]

theorem Date.clockless_fields (d : Date) : d.fields.Clockless := ⟨rfl, rfl, rfl, rfl, rfl⟩

theorem ends_nil : Ends [] := nofun

theorem Date.read?_dayChars (d : Date) : Date.read? Decode.isoDate (dayChars d.day) = some d := by
  have items_eq : items Decode.isoDate = dateItems := rfl
  have read := readAll_day d [] []
  rw [List.append_nil, List.append_nil] at read
  rw [Date.read?, Pattern.read?, items_eq, read]
  exact date?_fields d

theorem Time.read?_clockChars {t : Time} (regular : t.Regular) :
    Time.read? Decode.isoTime (clockChars t.second t.nanos) = some t := by
  have items_eq : items Decode.isoTime = timeItems := rfl
  have read := readAll_time (f := {}) ⟨rfl, rfl, rfl, rfl, rfl⟩ t [] ends_nil nofun
  rw [List.append_nil, List.append_nil] at read
  rw [Time.read?, Pattern.read?, items_eq, read]
  exact time?_withTime regular {}

/-- A wall clock is written as its date and its time of day. -/
theorem wallChars_eq (separator : Char) (i : Instant) :
    wallChars separator i.second i.nanos = dayChars i.date.day ++ separator :: clockChars i.time.second i.time.nanos :=
      rfl

theorem Instant.regular_time {i : Instant} (regular : i.Regular) : i.time.Regular := by
  intro leap
  have last := regular leap
  simp only [Instant.time, secondsPerDay]
  omega

theorem wallClock?_shown {i : Instant} (regular : i.Regular) : (i.date.fields.withTime i.time).wallClock? = some i := by
  simp only [Fields.wallClock?, date?_withTime, date?_fields, time?_withTime (Instant.regular_time regular),
    Option.bind_eq_bind, Option.bind_some, Instant.ofDateTime_date_time]

theorem trimLeft_clockChars (t : Time) (rest : List Char) :
    trimLeft (clockChars t.second t.nanos ++ rest) = clockChars t.second t.nanos ++ rest := by
  have below := t.second_lt
  simp only [secondsPerDay] at below
  simp only [clockChars, List.append_assoc]
  exact trimLeft_padded (by decide) (by omega) _

theorem Instant.read?_wallChars {i : Instant} (regular : i.Regular) :
    Instant.read? Decode.isoWall (wallChars ' ' i.second i.nanos) = some i := by
  have items_eq : items Decode.isoWall = dateItems ++ .blank :: timeItems := rfl
  have blank : trimLeft (' ' :: clockChars i.time.second i.time.nanos) = clockChars i.time.second i.time.nanos := by
    have kept := trimLeft_clockChars i.time []
    rw [List.append_nil] at kept
    exact kept
  have clock := readAll_time i.date.clockless_fields i.time [] ends_nil nofun
  rw [List.append_nil, List.append_nil] at clock
  rw [Instant.read?, Pattern.read?, items_eq, wallChars_eq, readAll_day, readAll, readItem, blank]
  simp only [Option.bind_eq_bind, Option.bind_some, clock]
  exact wallClock?_shown regular

/-- The text of a zoned timestamp whose clock shows a given wall clock. -/
theorem Zoned.toList_render {z : Zoned} {wall : Instant} (shown : z.wallClock? = some wall) :
    z.render.toList = wallChars 'T' wall.second wall.nanos ++ offsetChars z.offset := by
  obtain ⟨second, nanos⟩ := Instant.ofSecond?_eq_some.mp shown
  rw [Zoned.render, String.toList_ofList, second, nanos]

/-- The clock of a regular timestamp shows regular times. -/
theorem Zoned.regular_wallClock? {z : Zoned} {wall : Instant} (regular : z.Regular) (shown : z.wallClock? = some wall) :
    wall.Regular := by
  obtain ⟨second, nanos⟩ := Instant.ofSecond?_eq_some.mp shown
  intro leap
  have last := regular.instant (nanos ▸ leap)
  have minutes := regular.minutes
  omega

/-- A layout with a blank after the date does not read a letter there. -/
theorem Zoned.read?_letter {pattern : List Char} {more : List Item}
    (layout : items pattern = dateItems ++ .blank :: .field .hour :: more) (d : Date) (rest : List Char) :
    Zoned.read? pattern (dayChars d.day ++ 'T' :: rest) = none := by
  have noDigits : digits? 1 2 ('T' :: rest) = none := by simp [digits?, isDigit]
  have letter : trimLeft ('T' :: rest) = 'T' :: rest := trimLeft_of_head rfl
  rw [Zoned.read?, Pattern.read?, layout, readAll_day]
  simp [readAll, readItem, readField, letter, noDigits, store]

theorem Zoned.read?_render {z : Zoned} {wall : Instant} {pattern : List Char} (regular : z.Regular)
    (shown : z.wallClock? = some wall)
    (layout : items pattern = dateItems ++ .literal 'T' :: (timeItems ++ [.field .colonOffset])) :
    Zoned.read? pattern z.render.toList = some z := by
  obtain ⟨c, more, start, noDigit, noPoint⟩ :
      ∃ c rest, offsetChars z.offset = c :: rest ∧ isDigit c = false ∧ c ≠ '.' := by
    refine ⟨_, _, rfl, ?_⟩
    split <;> decide
  have ends : Ends (offsetChars z.offset) := by
    intro d first
    rw [start] at first
    cases first
    exact noDigit
  have clock := readAll_time wall.date.clockless_fields wall.time [.field .colonOffset] ends (by simp [start, noPoint])
  have offset := readField_offsetChars (f := wall.date.fields.withTime wall.time) regular.minutes z.offset_lt rfl []
  rw [List.append_nil] at offset
  rw [Zoned.toList_render shown, wallChars_eq, List.append_assoc, List.cons_append, Zoned.read?, Pattern.read?, layout,
    readAll_day, readAll, readItem, if_pos rfl]
  simp only [Option.bind_eq_bind, Option.bind_some, clock, readAll, readItem, offset, List.isEmpty_nil, if_true]
  have same : ({ wall.date.fields.withTime wall.time with offset := some z.offset } : Fields).wallClock? =
      (wall.date.fields.withTime wall.time).wallClock? := rfl
  have made : ofWallClock? wall z.offset = some z := by
    obtain ⟨second, nanos⟩ := Instant.ofSecond?_eq_some.mp shown
    refine ofWallClock?_eq_some.mpr ⟨?_, nanos.symm, rfl⟩
    omega
  simp only [Fields.zoned?, same, wallClock?_shown (regular_wallClock? regular shown), Option.bind_eq_bind,
    Option.bind_some, made]

/-- Only the last ISO layout has a letter between date and time. -/
theorem Zoned.findSome?_isoZoned {z : Zoned} {wall : Instant} (regular : z.Regular) (shown : z.wallClock? = some wall) :
    (Decode.isoZoned.findSome? fun p => Zoned.read? p z.render.toList) = some z := by
  have refused : ∀ {p more}, items p = dateItems ++ .blank :: .field .hour :: more →
      Zoned.read? p z.render.toList = none := by
    intro p more layout
    rw [Zoned.toList_render shown, wallChars_eq, List.append_assoc, List.cons_append]
    exact read?_letter layout _ _
  show (["%Y-%m-%d %H:%M:%S%.f %:z".toList, "%Y-%m-%d %H:%M:%S%.f %z".toList, "%Y-%m-%d %H:%M:%S%.f%:z".toList,
    "%Y-%m-%dT%H:%M:%S%.f%:z".toList].findSome? fun p => Zoned.read? p z.render.toList) = some z
  rw [List.findSome?_cons, refused rfl, List.findSome?_cons, refused rfl, List.findSome?_cons, refused rfl,
    List.findSome?_cons, read?_render regular shown rfl]

end RowStream.Calendar

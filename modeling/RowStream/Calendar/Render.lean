import RowStream.Calendar.Instant

/-! # Dates and times as text -/
namespace RowStream.Calendar

def padded (width n : Nat) : List Char :=
  let digits := Nat.toDigits 10 n
  List.replicate (width - digits.length) '0' ++ digits

/-- Four digits; years that need more or are negative have a sign. -/
def yearChars (y : Int) : List Char :=
  if 0 ≤ y ∧ y ≤ 9999 then padded 4 y.toNat
  else (if y < 0 then '-' else '+') :: padded 4 y.natAbs

def dayChars (day : Int) : List Char :=
  let (y, m, d) := civil day
  yearChars y ++ '-' :: (padded 2 m ++ '-' :: padded 2 d)

/-- No fraction, or the least of three, six and nine digits that is exact. -/
def fractionChars (nanos : Nat) : List Char :=
  if nanos = 0 then []
  else if nanos % 1000000 = 0 then '.' :: padded 3 (nanos / 1000000)
  else if nanos % 1000 = 0 then '.' :: padded 6 (nanos / 1000)
  else '.' :: padded 9 nanos

/-- Hours, minutes and seconds; a leap second is second 60. -/
def clockChars (second nanos : Nat) : List Char :=
  let leap := if nanosPerSecond ≤ nanos then 1 else 0
  padded 2 (second / 3600) ++ ':' :: (padded 2 (second / 60 % 60) ++
    ':' :: (padded 2 (second % 60 + leap) ++ fractionChars (nanos - leap * nanosPerSecond)))

def wallChars (separator : Char) (second : Int) (nanos : Nat) : List Char :=
  dayChars (second / secondsPerDay) ++
    separator :: clockChars (second % secondsPerDay).toNat nanos

/-- Sign, hours and minutes, to the nearest minute. -/
def offsetChars (offset : Int) : List Char :=
  let minutes := (offset.natAbs + 30) / 60
  (if offset < 0 then '-' else '+') :: (padded 2 (minutes / 60) ++ ':' :: padded 2 (minutes % 60))

def Date.render (d : Date) : String := String.ofList (dayChars d.day)

def Time.render (t : Time) : String := String.ofList (clockChars t.second t.nanos)

def Instant.render (i : Instant) : String := String.ofList (wallChars ' ' i.second i.nanos)

def Zoned.render (z : Zoned) : String :=
  String.ofList (wallChars 'T' (z.instant.second + z.offset) z.instant.nanos ++ offsetChars z.offset)

end RowStream.Calendar

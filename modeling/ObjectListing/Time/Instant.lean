import ObjectListing.Time.Span

/-!
Instants, in seconds and nanoseconds since the beginning of 1970, and their calendar date in the
proleptic Gregorian calendar. A second with more than a thousand million nanoseconds in it reaches into
the leap second behind it, which the clock shows as the sixtieth second of the minute.
-/

namespace ObjectListing

/-- A moment: whole seconds since the beginning of 1970, and nanoseconds after them. -/
structure Instant where
  seconds : Int := 0
  nanos : Nat := 0
  deriving DecidableEq, Repr

namespace Instant

/-- The number of nanoseconds in a second. -/
def second : Nat := 1000000000

/-- The instant so many seconds and nanoseconds after the beginning of 1970. -/
def ofUnix (seconds : Int) (nanos : Nat) : Instant := ⟨seconds, nanos⟩

/-- The instant so many milliseconds later. -/
def after (t : Instant) (milliseconds : Nat) : Instant :=
  let nanos := t.nanos + milliseconds * 1000000
  ⟨t.seconds + (nanos / second : Nat), nanos % second⟩

/-- Whether the instant lies in a leap second. -/
def isLeap (t : Instant) : Bool := second ≤ t.nanos

/-- Days since the first of 1970. -/
def day (t : Instant) : Int := t.seconds.fdiv 86400

/-- Seconds since midnight; a leap second does not count. -/
def clock (t : Instant) : Nat := (t.seconds.fmod 86400).toNat

/-- The leap second that the clock passes on its way from the time of `earlier` to that of `t`, in
seconds. Only the leap seconds that the two instants lie in are known. -/
def leapBetween (t earlier : Instant) : Int :=
  if earlier.clock < t.clock && earlier.isLeap then 1
  else if t.clock < earlier.clock && t.isLeap then -1
  else 0

/-- How long ago `earlier` was at `t`, in nanoseconds; less than nothing if it is yet to come. The days
between the two, the difference of their times of day and the sum of both have to be spans. -/
def since? (t earlier : Instant) : Option Int :=
  let days := (t.day - earlier.day) * 86400 * second
  let clocks : Int :=
    (t.clock - earlier.clock + leapBetween t earlier) * second + (t.nanos - earlier.nanos)
  (Span.checked? days).bind fun days =>
    (Span.checked? clocks).bind fun clocks => Span.checked? (days + clocks)

end Instant

/-- A day of the calendar. -/
structure Date where
  year : Int
  month : Nat
  day : Nat
  deriving DecidableEq, Repr

/-- The date so many days after 1 January 1970. Years are counted from March, so that the leap day is
the last of its year, and in cycles of 400 years, which all have the same number of days. -/
def Date.ofDay (day : Int) : Date :=
  let shifted := day + 719468
  let cycle := shifted.fdiv 146097
  let dayOfCycle := (shifted.fmod 146097).toNat
  let yearOfCycle :=
    (dayOfCycle - dayOfCycle / 1460 + dayOfCycle / 36524 - dayOfCycle / 146096) / 365
  let dayOfYear := dayOfCycle - (365 * yearOfCycle + yearOfCycle / 4 - yearOfCycle / 100)
  let monthFromMarch := (5 * dayOfYear + 2) / 153
  let month := if monthFromMarch < 10 then monthFromMarch + 3 else monthFromMarch - 9
  let year := yearOfCycle + cycle * 400
  ⟨if month ≤ 2 then year + 1 else year, month, dayOfYear - (153 * monthFromMarch + 2) / 5 + 1⟩

/-- Whether an instant has a date and a time of day: dates have years from -262143 to 262142, and only the
last second of a minute can reach into a leap second. -/
def Instant.isDated (t : Instant) : Bool :=
  let year := (Date.ofDay (t.seconds.fdiv 86400)).year
  year ≤ 262142 && -262143 ≤ year &&
    (t.nanos < second || (t.nanos < 2 * second && t.seconds.fmod 60 = 59))

/-- A number with zeros in front, up to the given width. -/
def padded (width n : Nat) : String :=
  let digits := Nat.toDigits 10 n
  String.ofList (List.replicate (width - digits.length) '0' ++ digits)

namespace Instant

/-- A year has four digits; outside 0 to 9999 it has a sign and at least four. -/
def yearText (year : Int) : String :=
  if 0 ≤ year ∧ year ≤ 9999 then padded 4 year.toNat
  else (if year < 0 then "-" else "+") ++ padded 4 year.natAbs

/-- The date, as `2001-09-09`. -/
def dateText (t : Instant) : String :=
  let date := Date.ofDay (t.seconds.fdiv 86400)
  s!"{yearText date.year}-{padded 2 date.month}-{padded 2 date.day}"

/-- The time of day, as `01:46:40`. -/
def clockText (t : Instant) : String :=
  let s := t.clock
  s!"{padded 2 (s / 3600)}:{padded 2 (s / 60 % 60)}:{padded 2 (s % 60 + t.nanos / second)}"

/-- The part of the second, in the fewest of 0, 3, 6 and 9 digits that are exact. -/
def fractionText (t : Instant) : String :=
  let n := t.nanos % second
  if n = 0 then ""
  else if n % 1000000 = 0 then "." ++ padded 3 (n / 1000000)
  else if n % 1000 = 0 then "." ++ padded 6 (n / 1000)
  else "." ++ padded 9 n

/-- Date and time with the letter of the zero offset, as in records. -/
def recordText (t : Instant) : String := s!"{t.dateText}T{t.clockText}{t.fractionText}Z"

/-- Date and time with the zero offset in digits. -/
def offsetText (t : Instant) : String := s!"{t.dateText}T{t.clockText}{t.fractionText}+00:00"

/-- Date and time to the second, as in tables. -/
def tableText (t : Instant) : String := s!"{t.dateText} {t.clockText}"

end Instant

end ObjectListing

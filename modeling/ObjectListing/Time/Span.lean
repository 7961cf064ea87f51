/-!
Spans of time: whole nanoseconds, less than nothing too, whose milliseconds fit in 63 bits. In words a span
is years, months, days, hours, minutes and seconds, largest first, without the ones that are zero. A year has
31557600 seconds and a month 2630016.
-/

namespace ObjectListing

namespace Span

/-- The most nanoseconds that a span has, either way. -/
def limit : Nat := (Nat.pow 2 63 - 1) * 1000000

/-- The span of so many nanoseconds, unless they are too many. -/
def checked? (nanoseconds : Int) : Option Int :=
  if nanoseconds.natAbs ≤ limit then some nanoseconds else none

/-- A count with its unit, or nothing for zero; units written as words have a plural. -/
def part (count : Nat) (unit : String) (word : Bool) : List String :=
  if count = 0 then []
  else if word && 1 < count then [s!"{count}{unit}s"]
  else [s!"{count}{unit}"]

/-- A number of seconds in words. -/
def inWords (seconds : Nat) : String :=
  let afterYears := seconds % 31557600
  let afterMonths := afterYears % 2630016
  let afterDays := afterMonths % 86400
  let parts :=
    part (seconds / 31557600) "year" true ++ part (afterYears / 2630016) "month" true ++
      part (afterMonths / 86400) "day" true ++ part (afterDays / 3600) "h" false ++
      part (afterDays / 60 % 60) "m" false ++ part (afterDays % 60) "s" false
  if parts.isEmpty then "0s" else " ".intercalate parts

end Span

end ObjectListing

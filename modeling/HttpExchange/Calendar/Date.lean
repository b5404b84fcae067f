/-!
# Calendar dates

Days are counted from 1 January 1970 in the Gregorian calendar, extended to all years before and after
it. To convert a count into a date the year is taken to begin in March, so that the leap day ends it:
centuries, four-year spans and years are then split off in turn, and all of them but the last of a
longer span are equally long.
-/

namespace HttpExchange

/-- A day of the Gregorian calendar. -/
structure Date where
  /-- The year; the year before year 1 is year 0. -/
  year : Int
  /-- The month, from 1. -/
  month : Nat
  /-- The day of the month, from 1. -/
  day : Nat
  deriving DecidableEq, Repr

namespace Date

/-- Does year `y` have a 29 February? -/
def isLeapYear (y : Int) : Bool := y % 4 == 0 && (y % 100 != 0 || y % 400 == 0)

/-- The number of days of a month. -/
def daysInMonth (year : Int) (month : Nat) : Nat :=
  if month = 2 then (if isLeapYear year then 29 else 28)
  else if month = 4 ∨ month = 6 ∨ month = 9 ∨ month = 11 then 30
  else 31

/-- The first year of the supported span. -/
def minYear : Int := 1

/-- The last year of the supported span. -/
def maxYear : Int := 9999

/-- Is `year` in the supported span? -/
def isSupportedYear (year : Int) : Bool := minYear ≤ year && year ≤ maxYear

/-- Does the date exist, in a supported year? -/
def isValid (d : Date) : Bool :=
  isSupportedYear d.year && 1 ≤ d.month && d.month ≤ 12 && 1 ≤ d.day &&
    d.day ≤ daysInMonth d.year d.month

/-! ## Counting days -/

/-- The days from 1 March of year 0 to 1 January 1970. -/
def epochOffset : Int := 719468

/-- The year of a date if years begin in March. -/
def marchYear (d : Date) : Int := if d.month ≤ 2 then d.year - 1 else d.year

/-- The number of months since March. -/
def marchMonth (d : Date) : Nat := if d.month ≤ 2 then d.month + 9 else d.month - 3

/-- The days from the beginning of March to the beginning of the `m`-th month after it. -/
def daysBeforeMarchMonth (m : Nat) : Nat := (153 * m + 2) / 5

/-- The number of days from 1 January 1970 to the date. -/
def dayNumber (d : Date) : Int :=
  let y := d.marchYear
  365 * y + y / 4 - y / 100 + y / 400 + daysBeforeMarchMonth d.marchMonth + d.day - 1 - epochOffset

/-- The date in a year that begins in March, from the day of that year, counted from 0. -/
def ofMarchDay (marchYear : Int) (day : Nat) : Date :=
  let m := (5 * day + 2) / 153
  { year := if m < 10 then marchYear else marchYear + 1
    month := if m < 10 then m + 3 else m - 9
    day := day - daysBeforeMarchMonth m + 1 }

/-- The date that is `n` days after 1 January 1970. -/
def ofDayNumber (n : Int) : Date :=
  let days := n + epochOffset
  let cycle := days / 146097
  let inCycle := (days % 146097).toNat
  let century := min (inCycle / 36524) 3
  let inCentury := inCycle - 36524 * century
  let span := inCentury / 1461
  let inSpan := inCentury - 1461 * span
  let year := min (inSpan / 365) 3
  ofMarchDay (400 * cycle + (100 * century + 4 * span + year : Nat)) (inSpan - 365 * year)

/-- The day of the week, counted from Monday as 0. -/
def weekday (dayNumber : Int) : Nat := ((dayNumber + 3) % 7).toNat

end Date

end HttpExchange

import HttpExchange.Calendar.Date

/-!
# Dates with a time of day

A date and time, to the microsecond, with or without an offset from universal time. One without an
offset is taken to be in universal time.
-/

namespace HttpExchange

/-- A count of seconds since the beginning of 1970 in universal time. -/
abbrev Seconds := Int

/-- A time of day, to the microsecond. -/
structure TimeOfDay where
  /-- The hour, from 0 to 23. -/
  hour : Nat
  /-- The minute, from 0 to 59. -/
  minute : Nat
  /-- The second, from 0 to 59. -/
  second : Nat
  /-- The microsecond, from 0 to 999999. -/
  micro : Nat := 0
  deriving DecidableEq, Repr

/-- Are the fields in their ranges? -/
def TimeOfDay.isValid (t : TimeOfDay) : Bool :=
  t.hour < 24 && t.minute < 60 && t.second < 60 && t.micro < 1000000

/-- The whole seconds since midnight. -/
def TimeOfDay.seconds (t : TimeOfDay) : Nat := 3600 * t.hour + 60 * t.minute + t.second

/-- The time of day that is `n` seconds after midnight. -/
def TimeOfDay.ofSeconds (n : Nat) : TimeOfDay := ⟨n / 3600, n / 60 % 60, n % 60, 0⟩

/-- A date and time of day, with the offset from universal time in seconds if it is known. -/
structure DateTime where
  /-- The date. -/
  date : Date
  /-- The time of day. -/
  time : TimeOfDay
  /-- The seconds by which local time is ahead of universal time. -/
  offset : Option Int
  /-- Date and time exist, and the offset is less than a day. -/
  valid : (date.isValid && time.isValid && (offset.getD 0).natAbs < 86400) = true
  deriving DecidableEq, Repr

namespace DateTime

/-- The date and time with the given fields, if it exists. -/
def ofFields? (date : Date) (time : TimeOfDay) (offset : Option Int) : Option DateTime :=
  if h : (date.isValid && time.isValid && (offset.getD 0).natAbs < 86400) = true then
    some ⟨date, time, offset, h⟩
  else none

/-- The whole seconds since the beginning of 1970 in universal time. -/
def seconds (d : DateTime) : Seconds :=
  86400 * d.date.dayNumber + d.time.seconds - d.offset.getD 0

/-- The whole milliseconds since the beginning of 1970 in universal time. -/
def epochMillis (d : DateTime) : Int := 1000 * d.seconds + (d.time.micro / 1000 : Nat)

end DateTime

/-- The date of an instant in universal time. -/
def Date.ofSeconds (s : Seconds) : Date := .ofDayNumber (s / 86400)

end HttpExchange

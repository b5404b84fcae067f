import HttpExchange.Fault
import HttpExchange.Text.Search

/-!
# Dates in headers

Dates are written in one form, the preferred one, with a fixed length and always in universal time.
They are read in three:

* the preferred form, `Sun, 06 Nov 1994 08:49:37 GMT`;
* the older form `Sunday, 06-Nov-94 08:49:37 GMT`, whose year is given by its last two digits;
* the form of the C library, `Sun Nov  6 08:49:37 1994`.

The name of the day is not compared with the date. Times are counted in milliseconds since the
beginning of 1970.
-/

namespace HttpExchange

/-- A form in which a date may be written. -/
inductive DateForm where
  /-- Day, month and year with four digits, separated by white space. -/
  | preferred
  /-- Day, month and year with two digits, separated by hyphens. -/
  | older
  /-- Month and day in front of the time, the year behind it. -/
  | library
  deriving DecidableEq, Repr

namespace HttpDate

/-! ## Names -/

/-- The short names of the days of the week, from Monday. -/
def weekdayNames : List String := ["Mon", "Tue", "Wed", "Thu", "Fri", "Sat", "Sun"]

/-- The short names of the months, from January. -/
def monthNames : List String :=
  ["Jan", "Feb", "Mar", "Apr", "May", "Jun", "Jul", "Aug", "Sep", "Oct", "Nov", "Dec"]

/-- Names in lower case, as they are compared. -/
def lowered (names : List String) : List (List Char) :=
  names.map fun name => name.toList.map Char.toLower

/-! ## Writing -/

/-- The preferred form of a time in whole seconds. -/
def writeSeconds (s : Seconds) : String :=
  let date := Date.ofSeconds s
  let time := TimeOfDay.ofSeconds (s % 86400).toNat
  let weekday := weekdayNames.getD (Date.weekday (s / 86400)) ""
  let month := monthNames.getD (date.month - 1) ""
  let year := paddedText 4 date.year.toNat
  let clock := s!"{paddedText 2 time.hour}:{paddedText 2 time.minute}:{paddedText 2 time.second}"
  s!"{weekday}, {paddedText 2 date.day} {month} {year} {clock} GMT"

/-- A time in whole seconds whose year is in the supported span. A year that does not fit 32 bits,
counted from 1900, is a fault of its own. -/
def supportedSeconds (s : Seconds) : Except Fault Seconds :=
  let year := (Date.ofSeconds s).year
  if Date.isSupportedYear year then .ok s
  else if Numeral.fitsSigned 32 (year - 1900) then .error (.yearOutOfRange (Int.bmod year (Nat.pow 2 32)))
  else .error .yearTooLarge

/-- The integer nearest to a quotient that is rounded to a floating-point number first. -/
def roundedTwice (num den : Nat) : Nat :=
  match Binary64.ofRatio false num den with
  | .finite _ m e => let (n, d) := Binary64.ratio m e; Binary64.roundQuotient n d
  | _ => 0

/-- The whole second in which a time of `mantissa * 2 ^ exponent` seconds falls, after it has been
rounded to a microsecond. The fraction is taken toward zero first. -/
def wholeSecond (negative : Bool) (mantissa : Nat) (exponent : Int) : Seconds :=
  let (num, den) := Binary64.ratio mantissa exponent
  let whole : Int := (num / den : Nat)
  let micros := roundedTwice (num % den * 1000000) den
  if negative then (if micros = 0 then -whole else -whole - 1)
  else (if micros < 1000000 then whole else whole + 1)

/-- Is a time within the range that is handed to the system? Both ends, one of which is just beyond the
signed numbers of 64 bits, are. -/
def isSystemTime (s : Seconds) : Bool := s.natAbs ≤ Nat.pow 2 63

/-- The time of `x` seconds, in whole seconds. -/
def secondsOfFloat : Binary64 → Except Fault Seconds
  | .nan => .error .timeOfNan
  | .infinite _ => .error .timeTooLarge
  | .finite negative m e =>
    let s := wholeSecond negative m e
    if isSystemTime s then supportedSeconds s else .error .timeTooLarge

/-- The time of a date and time, in whole seconds. -/
def secondsOfDateTime (d : DateTime) : Except Fault Seconds :=
  if Date.isSupportedYear (Date.ofSeconds d.seconds).year then .ok d.seconds
  else .error .dateOutOfRange

/-- The time of a number of milliseconds, in whole seconds. -/
def secondsOfInt (millis : Int) : Except Fault Seconds :=
  match Binary64.ofIntDiv millis 1000 with
  | .infinite _ => .error .quotientTooLarge
  | x => secondsOfFloat x

/-- The preferred form of a time: a number of milliseconds or a date and time. -/
def write : Value → Except Fault String
  | .dateTime _ d => (secondsOfDateTime d).map writeSeconds
  | .int _ millis => (secondsOfInt millis).map writeSeconds
  | .bool b => (secondsOfInt (if b then 1 else 0)).map writeSeconds
  | .float _ millis => (secondsOfFloat (millis.divNat 1000)).map writeSeconds
  | _ => .error .wrongType

/-! ## Reading -/

open Text Scan

/-- Takes the name of a day, perhaps with more letters. -/
def scanWeekday : Scan Unit := do
  let _ ← Scan.word (lowered weekdayNames)
  letters

/-- Takes the short name of a month in ASCII letters and gives its number. -/
def scanMonth : Scan Nat := fun cs =>
  ((lowered monthNames).idxOf? ((cs.take 3).map Char.toLower)).map fun i => (i + 1, cs.drop 3)

/-- Takes a time of day with a colon between its parts. -/
def scanTime : Scan TimeOfDay := do
  let hour ← digits 2 2
  char ':'
  let minute ← digits 2 2
  char ':'
  let second ← digits 2 2
  return ⟨hour, minute, second, 0⟩

/-- Takes the name of universal time. -/
def scanZone : Scan Unit := do
  let _ ← Scan.word [['g', 'm', 't'], ['u', 't', 'c'], ['u', 't']]
  atEnd

/-- The year that two digits mean when it is `thisYear`: the one with these last digits that is not more
than fifty years ahead, in this century or the one before. -/
def fullYear (thisYear : Int) (year : Nat) : Int :=
  let candidate : Int := 2000 + year
  if thisYear + 50 < candidate then candidate - 100 else candidate

/-- Takes a whole date of the given form. -/
def scanForm (thisYear : Int) : DateForm → Scan (Date × TimeOfDay)
  | .preferred => do
    scanWeekday; char ','; blanks
    let day ← digits 1 2
    blanks
    let month ← scanMonth
    blanks
    let year ← digits 4 4
    blanks
    let time ← scanTime
    blanks; scanZone
    return (⟨year, month, day⟩, time)
  | .older => do
    scanWeekday; char ','; blanks
    let day ← digits 1 2
    char '-'
    let month ← scanMonth
    char '-'
    let year ← digits 2 2
    blanks
    let time ← scanTime
    blanks; scanZone
    return (⟨fullYear thisYear year, month, day⟩, time)
  | .library => do
    scanWeekday; blanks
    let month ← scanMonth
    blanks
    let day ← digits 1 2
    blanks
    let time ← scanTime
    blanks
    let year ← digits 4 4
    atEnd
    return (⟨year, month, day⟩, time)

/-- The time that a text writes in one form, if the date exists. -/
def readForm (thisYear : Int) (form : DateForm) (cs : List Char) : Option Int := do
  let ((date, time), _) ← scanForm thisYear form cs
  let moment ← DateTime.ofFields? date time (some 0)
  return moment.epochMillis

/-- All forms, in the order in which they are tried. -/
def allForms : List DateForm := [.preferred, .older, .library]

/-- The time that a text writes in one of the forms, in milliseconds. -/
def read (thisYear : Int) (forms : List DateForm) (text : String) : Except Fault Int :=
  match forms.findSome? fun form => readForm thisYear form (trim text.toList) with
  | some millis => .ok millis
  | none => .error (.invalidDate text)

end HttpDate

end HttpExchange

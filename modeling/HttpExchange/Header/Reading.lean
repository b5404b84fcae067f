import HttpExchange.HttpDate
import HttpExchange.Value.Displayed

/-!
# Reading header values

A header value is read as text, as an integer or as a date. As text, a date and time has the preferred
form of dates and a whole floating-point number is written like an integer; everything else is displayed,
unless it is an integer of more digits than are converted.
-/

namespace HttpExchange

namespace Value

/-- The text of an integer, which may be too long for one. -/
def integerText (n : Int) : Except Fault String :=
  if Numeral.maxDigits < (Numeral.digits n.natAbs).length then .error .integerTooLong else .ok (intText n)

/-- The text of a header value. -/
def headerText : Value → Except Fault String
  | .text _ s => .ok s
  | .int _ n => integerText n
  | .dateTime m d => HttpDate.write (.dateTime m d)
  | .float _ x => .ok <| match x.toInt? with
    | some n => intText n
    | none => x.text
  | v => .ok v.display

/-- The texts of header values. -/
def headerTexts (vs : List Value) : Except Fault (List String) := vs.mapM headerText

/-- The text of a header value, as a value. -/
def headerTextValue (v : Value) : Except Fault Value := v.headerText.map (.text v.displayMark)

/-- The texts of header values, as values. -/
def headerTextValues (vs : List Value) : Except Fault (List Value) := vs.mapM headerTextValue

/-- The integer part of a floating-point number, toward zero. -/
def truncate : Binary64 → Except Fault Int
  | .nan => .error .integerOfNan
  | .infinite _ => .error .integerOfInfinity
  | .finite negative m e => .ok (Binary64.truncate negative m e)

/-- The integer that a text writes. -/
def integerOfText (s : String) : Except Fault Int :=
  match Numeral.read s.toList with
  | .ok n => .ok n
  | .error refusal => .error (.invalidInteger (.ofText s) refusal)

/-- The ASCII characters that bytes are; the other bytes become a character that no numeral has. -/
def asciiOfBytes (bs : List UInt8) : List Char :=
  bs.map fun b => if b < 0x80 then Char.ofNat b.toNat else '?'

/-- The integer that bytes write in ASCII. -/
def integerOfBytes (bs : List UInt8) : Except Fault Int :=
  match Numeral.read (asciiOfBytes bs) with
  | .ok n => .ok n
  | .error refusal => .error (.invalidInteger (.ofBytes bs) refusal)

/-- A value converted to an integer. -/
def toInteger : Value → Except Fault Int
  | .int _ n => .ok n
  | .bool b => .ok (if b then 1 else 0)
  | .float _ x => truncate x
  | .text _ s => integerOfText s
  | .bytes _ bs => integerOfBytes bs
  | _ => .error .wrongType

/-- The integer that the header `name` has as its value. -/
def headerInteger (name : String) : Value → Except Fault Int
  | .int _ n => .ok n
  | .float _ x => truncate x
  | .text m s =>
    match Numeral.read (Text.trim s.toList) with
    | .ok n => .ok n
    | .error _ => .error (.headerNotInteger name (.text m s))
  | v => .error (.headerNotInteger name v)

/-- The time in milliseconds that the header `name` has as its value. -/
def headerDate (thisYear : Int) (name : String) : Value → Except Fault Int
  | .dateTime _ d => .ok d.epochMillis
  | .int _ n => .ok n
  | .float _ x => truncate x
  | .text _ s =>
    match HttpDate.read thisYear HttpDate.allForms s with
    | .ok millis => .ok millis
    | .error _ => .error (.headerNotDate name s)
  | v => .error (.headerNeverDate name v)

/-- The mark of an integer that a value is converted to: an integer stays the thing that it is. -/
def integerMark : Value → Mark
  | .int m _ => m
  | _ => .none

end Value

end HttpExchange

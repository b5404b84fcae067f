import HttpExchange.Number.Shortest
import HttpExchange.Text.Quoted
import HttpExchange.Value

/-!
# Written values

A value has two written forms. Its *literal* is unambiguous and stands in messages: texts are quoted and
dates are written with their fields. Its *display* is the literal except for texts, dates and locales,
which are written plainly.
-/

namespace HttpExchange

/-- The text of an integer. -/
def intText (n : Int) : String := String.ofList (Numeral.write n)

/-- The text of a natural number. -/
def natText (n : Nat) : String := String.ofList (Numeral.digits n)

/-- The shortest text of a floating-point number. -/
def Binary64.text (x : Binary64) : String := String.ofList x.write

/-- `n` in decimal digits, with zeros in front up to `width` digits. -/
def paddedText (width n : Nat) : String := String.ofList (Numeral.padded width n)

/-- The texts with commas between them. -/
def commaSeparated (texts : List String) : String := String.intercalate ", " texts

/-! ## Dates -/

/-- The literal of an offset from universal time: whole days and the seconds beyond them, the days
negative for an offset to the west. -/
def offsetLiteral (seconds : Int) : String :=
  if seconds = 0 then "datetime.timezone.utc"
  else
    let days := seconds / 86400
    let rest := intText (seconds % 86400)
    let span := if days = 0 then s!"seconds={rest}"
      else if seconds % 86400 = 0 then s!"days={intText days}"
      else s!"days={intText days}, seconds={rest}"
    s!"datetime.timezone(datetime.timedelta({span}))"

/-- The literal of a date and time. Seconds and microseconds are left out where they and all that
follows them are zero. -/
def DateTime.literal (d : DateTime) : String :=
  let fine := if d.time.micro ≠ 0 then [d.time.second, d.time.micro]
    else if d.time.second ≠ 0 then [d.time.second] else []
  let fields := intText d.date.year ::
    ([d.date.month, d.date.day, d.time.hour, d.time.minute] ++ fine).map natText
  let zone := match d.offset with
    | none => []
    | some seconds => [s!"tzinfo={offsetLiteral seconds}"]
  s!"datetime.datetime({commaSeparated (fields ++ zone)})"

/-- The display of an offset: hours and minutes, and seconds if there are any. -/
def offsetText (seconds : Int) : String :=
  let sign := if seconds < 0 then "-" else "+"
  let n := seconds.natAbs
  let whole := s!"{sign}{paddedText 2 (n / 3600)}:{paddedText 2 (n / 60 % 60)}"
  if n % 60 = 0 then whole else s!"{whole}:{paddedText 2 (n % 60)}"

/-- The display of a date and time: date, time and offset, the largest unit first. -/
def DateTime.text (d : DateTime) : String :=
  let date := s!"{paddedText 4 d.date.year.toNat}-{paddedText 2 d.date.month}-{paddedText 2 d.date.day}"
  let time := s!"{paddedText 2 d.time.hour}:{paddedText 2 d.time.minute}:{paddedText 2 d.time.second}"
  let fraction := if d.time.micro = 0 then "" else s!".{paddedText 6 d.time.micro}"
  let zone := (d.offset.map offsetText).getD ""
  s!"{date} {time}{fraction}{zone}"

/-! ## Values -/

/-- The literal of a locale. -/
def Locale.literal (l : Locale) : String := s!"Locale({Text.literal l.tag})"

/-- The literal of a fixed sequence of items with the given literals. -/
def tupleLiteral : List String → String
  | [item] => s!"({item},)"
  | items => s!"({commaSeparated items})"

/-- The literal of a set of names with the given literals. -/
def setLiteral : List String → String
  | [] => "set()"
  | names => s!"\x7b{commaSeparated names}\x7d"

mutual

/-- The literal of a name. -/
def Key.literal : Key → String
  | .null => "None"
  | .bool true => "True"
  | .bool false => "False"
  | .int _ n => intText n
  | .float _ x => x.text
  | .text _ s => Text.literal s
  | .bytes _ bs => Text.bytesLiteral bs
  | .dateTime _ d => d.literal
  | .locale _ l => l.literal
  | .tuple _ items => tupleLiteral (Key.literals items)

/-- The literals of some names. -/
def Key.literals : List Key → List String
  | [] => []
  | k :: rest => Key.literal k :: Key.literals rest

end

namespace Value

mutual

/-- The literal of a value. -/
def literal : Value → String
  | .null => Key.null.literal
  | .bool b => (Key.bool b).literal
  | .int _ n => intText n
  | .float _ x => x.text
  | .text _ s => Text.literal s
  | .bytes _ bs => Text.bytesLiteral bs
  | .list _ items => s!"[{commaSeparated (literals items)}]"
  | .tuple _ items => tupleLiteral (literals items)
  | .map _ entries => s!"\x7b{commaSeparated (entryLiterals entries)}\x7d"
  | .set _ names => setLiteral (Key.literals names.items)
  | .dateTime _ d => d.literal
  | .locale _ l => l.literal
  | .part _ fields => s!"namespace({commaSeparated (fieldLiterals fields)})"

/-- The literals of the items of a list. -/
def literals : List Value → List String
  | [] => []
  | v :: rest => literal v :: literals rest

/-- The literals of the entries of a map. -/
def entryLiterals : List (Key × Value) → List String
  | [] => []
  | (k, v) :: rest => s!"{k.literal}: {literal v}" :: entryLiterals rest

/-- The literals of the fields of a part. A field without a name is not shown. -/
def fieldLiterals : List (String × Value) → List String
  | [] => []
  | (name, v) :: rest =>
    if name = "" then fieldLiterals rest else s!"{name}={literal v}" :: fieldLiterals rest

end

/-- The display of a value. -/
def display : Value → String
  | .text _ s => s
  | .dateTime _ d => d.text
  | .locale _ l => l.tag
  | v => v.literal

/-- The name of the type of a value. -/
def typeName : Value → String
  | .null => "NoneType"
  | .bool _ => "bool"
  | .int _ _ => "int"
  | .float _ _ => "float"
  | .text _ _ => "str"
  | .bytes _ _ => "bytes"
  | .list _ _ => "list"
  | .tuple _ _ => "tuple"
  | .map _ _ => "dict"
  | .set _ _ => "set"
  | .dateTime _ _ => "datetime"
  | .locale _ _ => "Locale"
  | .part _ _ => "SimpleNamespace"

end Value

end HttpExchange

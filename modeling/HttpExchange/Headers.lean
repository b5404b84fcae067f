import HttpExchange.Header.Reading
import HttpExchange.OrderedMap

/-!
# Headers

Headers are found by name regardless of case. Each keeps the spelling of its name in the first write and
its place, and has one or more values, which stay as they were written until they are read. Writing a
list writes its items, and writing nothing is refused.
-/

namespace HttpExchange

/-- A header: the name as it was first written, and the values. -/
structure Header where
  /-- The name in its first spelling. -/
  name : Thing String
  /-- The values in the order in which they were written. -/
  values : List Value

/-- Headers by the lower case of their names. -/
abbrev Headers := OrderedMap String Header

namespace Headers

/-! ## Writing -/

/-- The values of a header after `value` was written over or behind `values`. -/
def combine (replace : Bool) (values : List Value) (value : Value) : List Value :=
  if replace then value.flatten else values ++ value.flatten

/-- Writes a value that is not missing, the name being a thing. -/
def putAs (h : Headers) (name : Thing String) (value : Value) (replace : Bool) : Headers :=
  let key := lowerCase name.content
  match h.get? key with
  | none => h.insert key ⟨name, value.flatten⟩
  | some header => h.insert key ⟨header.name, combine replace header.values value⟩

/-- Writes a value that is not missing. -/
def put (h : Headers) (name : String) (value : Value) (replace : Bool) : Headers :=
  h.putAs (.ofText (.named (lowerCase name)) name) value replace

/-- Writes a value that is not missing over the present ones. There is but one thing that is the name. -/
def putUnique (h : Headers) (name : String) (value : Value) : Headers :=
  h.putAs ⟨.unique, name⟩ value true

/-- Writes a value over the present ones, or behind them. -/
def set (h : Headers) (name : String) (value : Value) (replace : Bool) : Except Fault Headers :=
  match value with
  | .null => .error (.headerValueMissing name)
  | v => .ok (h.put name v replace)

/-- Writes a value behind the present ones. -/
def add (h : Headers) (name : String) (value : Value) : Except Fault Headers :=
  h.set name value false

/-- The headers that result from writing values one behind the other. -/
def ofPairs (pairs : List (String × Value)) : Except Fault Headers :=
  pairs.foldlM (fun h p => h.add p.1 p.2) .empty

/-- Removes a header if it is there. -/
def remove (h : Headers) (name : String) : Headers := h.erase (lowerCase name)

/-- Removes a header that must be there. -/
def delete (h : Headers) (name : String) : Except Fault Headers :=
  if h.contains (lowerCase name) then .ok (h.remove name) else .error (.missing (.ofText name))

/-- Replaces the values of a header that is there. -/
def setValues (h : Headers) (name : String) (values : List Value) : Headers :=
  match h.get? (lowerCase name) with
  | none => h
  | some header => h.insert (lowerCase name) ⟨header.name, values⟩

/-! ## Reading -/

/-- Is there a header of this name? -/
def has (h : Headers) (name : String) : Bool := h.contains (lowerCase name)

/-- The values of a header as they were written, if it is there. -/
def values? (h : Headers) (name : String) : Option (List Value) :=
  (h.get? (lowerCase name)).map (·.values)

/-- The values of a header as they were written. -/
def valuesOf (h : Headers) (name : String) : List Value := (h.values? name).getD []

/-- The first value of a header as it was written. -/
def first? (h : Headers) (name : String) : Option Value := (h.valuesOf name).head?

/-- The text of the first value of a header. -/
def text? (h : Headers) (name : String) : Except Fault (Option String) :=
  match h.first? name with
  | none => .ok none
  | some v => v.headerText.map some

/-- The text of the first value of a header, as a value. -/
def textValue? (h : Headers) (name : String) : Except Fault (Option Value) :=
  match h.first? name with
  | none => .ok none
  | some v => v.headerTextValue.map some

/-- The texts of all values of a header. -/
def texts (h : Headers) (name : String) : Except Fault (List String) :=
  Value.headerTexts (h.valuesOf name)

/-- The text of the first value of a header that must be there. -/
def item (h : Headers) (name : String) : Except Fault String := do
  match ← h.text? name with
  | some s => return s
  | none => throw (.missing (.ofText name))

/-- The mark that the first value of a header has as an integer. -/
def integerMark (h : Headers) (name : String) : Mark := ((h.first? name).getD .null).integerMark

/-- The first value of a header as an integer, `-1` if there is none. -/
def integer (h : Headers) (name : String) : Except Fault Int :=
  match h.first? name with
  | none => .ok (-1)
  | some .null => .ok (-1)
  | some v => v.headerInteger name

/-- The first value of a header as a time in milliseconds, `-1` if there is none. -/
def date (thisYear : Int) (h : Headers) (name : String) : Except Fault Int :=
  match h.first? name with
  | none => .ok (-1)
  | some .null => .ok (-1)
  | some v => v.headerDate thisYear name

/-- The names of the headers in order, each in its first spelling. -/
def names (h : Headers) : List String := h.values.map (·.name.content)

/-- The names of the headers with the texts of their values. -/
def items (h : Headers) : Except Fault (List (String × List String)) :=
  h.values.mapM fun header => (Value.headerTexts header.values).map (header.name.content, ·)

/-- The headers as they are sent: a name and a text for each value. -/
def pairs (h : Headers) : Except Fault (List (String × String)) :=
  h.items.map fun items => items.flatMap fun item => item.2.map (item.1, ·)

/-- The names of the headers with the texts of their values, as values. -/
def itemValues (h : Headers) : Except Fault (List (Value × List Value)) :=
  h.values.mapM fun header => (Value.headerTextValues header.values).map (header.name.text, ·)

/-- The literal of a list of names and texts. -/
def pairsLiteral (pairs : List (String × String)) : String :=
  (Value.ofList (pairs.map fun p => .ofTuple [.ofText p.1, .ofText p.2])).literal

/-- The literal of headers. -/
def literal (h : Headers) : Except Fault String :=
  h.pairs.map fun pairs => s!"MutableHeaders({pairsLiteral pairs})"

end Headers

end HttpExchange

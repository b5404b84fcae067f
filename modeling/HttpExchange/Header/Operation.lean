import HttpExchange.Action
import HttpExchange.Answer
import HttpExchange.Headers

/-!
# Operations on headers and on the values of a header

Every operation that callers may run on headers, as data. All of them are atomic.
-/

namespace HttpExchange

/-- An operation on the values of one header. -/
inductive ValuesOp where
  /-- Appends a value. -/
  | add (value : Value)
  /-- Appends the items of a list. -/
  | addAll (items : List Value)
  /-- Replaces all values. -/
  | set (value : Value)
  /-- Gives the first value. -/
  | first
  /-- Gives all values. -/
  | all
  /-- Gives the text of the first value. -/
  | firstText
  /-- Gives the texts of all values. -/
  | texts
  /-- Gives the number of values. -/
  | size
  /-- Tells whether there are values. -/
  | nonempty
  /-- Gives the literal. -/
  | literal

namespace ValuesOp

/-- The values with which a header begins: none, or what one value stands for. -/
def initial : Value → List Value
  | .null => []
  | v => v.flatten

/-- Does an operation on the values of a header. -/
def run (op : ValuesOp) (vs : List Value) : Except Fault (Answer × List Value) :=
  match op with
  | .add v => .ok (.none, vs ++ v.flatten)
  | .addAll items => .ok (.none, vs ++ items)
  | .set v => .ok (.none, v.flatten)
  | .first => .ok (.value (vs.headD .null), vs)
  | .all => .ok (.list vs, vs)
  | .firstText =>
    match vs with
    | [] => .ok (.none, vs)
    | v :: _ => v.headerTextValue.map fun s => (.value s, vs)
  | .texts => (Value.headerTextValues vs).map fun ss => (.list ss, vs)
  | .size => .ok (.int vs.length, vs)
  | .nonempty => .ok (.bool !vs.isEmpty, vs)
  | .literal => .ok (.text s!"HeaderValue({(Value.ofList vs).literal})", vs)

end ValuesOp

/-- An operation on headers. -/
inductive HeadersOp where
  /-- Writes a value over or behind the present ones. -/
  | set (name : String) (value : Value) (replace : Bool)
  /-- Writes a value behind the present ones. -/
  | add (name : String) (value : Value)
  /-- Gives the values of a header, to be kept. -/
  | holder (name : String)
  /-- Gives the text of the first value, or else the text given here. -/
  | get (name : String) (default : Option String)
  /-- Gives the texts of all values. -/
  | texts (name : String)
  /-- Gives the first value as it was written. -/
  | first (name : String)
  /-- Gives all values as they were written. -/
  | valuesOf (name : String)
  /-- Gives the first value as an integer. -/
  | integer (name : String)
  /-- Gives the first value as a time. -/
  | date (name : String)
  /-- Gives the names. -/
  | names
  /-- Gives the names with the texts of their values. -/
  | items
  /-- Gives a name and a text for each value. -/
  | pairs
  /-- Removes a header if it is there. -/
  | remove (name : String)
  /-- Removes all headers. -/
  | clear
  /-- Gives the text of the first value of a header that must be there. -/
  | item (name : String)
  /-- Removes a header that must be there. -/
  | delete (name : String)
  /-- Tells whether there is a header of this name. -/
  | has (name : Value)
  /-- Gives the number of headers. -/
  | size
  /-- Tells whether there are headers. -/
  | nonempty
  /-- Gives the literal. -/
  | literal
  /-- Does an operation on the values of a header that is there. -/
  | onValues (name : String) (op : ValuesOp)

namespace HeadersOp

/-- Does an operation on headers. -/
def run (thisYear : Int) (op : HeadersOp) (h : Headers) : Except Fault (Answer × Headers) :=
  match op with
  | .set name value replace => (h.set name value replace).map (.none, ·)
  | .add name value => (h.add name value).map (.none, ·)
  | .holder name => .ok (match h.values? name with
    | some vs => .headerValues (lowerCase name) vs
    | none => .none, h)
  | .get name default => (h.textValue? name).map fun s => (.value (s.getD (.ofText? default)), h)
  | .texts name => (Value.headerTextValues (h.valuesOf name)).map fun ss => (.list ss, h)
  | .first name => .ok (.value ((h.first? name).getD .null), h)
  | .valuesOf name => .ok (.list (h.valuesOf name), h)
  | .integer name => (h.integer name).map fun n => (.value (.int (h.integerMark name) n), h)
  | .date name => (h.date thisYear name).map fun n => (.value (.int (h.integerMark name) n), h)
  | .names => .ok (.list (h.values.map (·.name.text)), h)
  | .items => h.itemValues.map fun items =>
    (.list (items.map fun i => .ofTuple [i.1, .ofList i.2]), h)
  | .pairs => h.itemValues.map fun items =>
    (.list (items.flatMap fun i => i.2.map fun s => .ofTuple [i.1, s]), h)
  | .remove name => .ok (.none, h.remove name)
  | .clear => .ok (.none, .empty)
  | .item name => (h.item name).map fun s =>
    (.value (.text ((h.first? name).getD .null).displayMark s), h)
  | .delete name => (h.delete name).map (.none, ·)
  | .has (.text _ name) => .ok (.bool (h.has name), h)
  | .has _ => .ok (.bool false, h)
  | .size => .ok (.int h.size, h)
  | .nonempty => .ok (.bool !h.isEmpty, h)
  | .literal => h.literal.map fun s => (.text s, h)
  | .onValues name op => (op.run (h.valuesOf name)).map fun r => (r.1, h.setValues name r.2)

end HeadersOp

end HttpExchange

import HttpExchange.Action
import HttpExchange.Value.Operation

/-!
# Attributes

Attributes are values that hosted code attaches to a request by name. To set an attribute to nothing is to
remove it.
-/

namespace HttpExchange

/-- The values of attributes by name. -/
abbrev Attributes := OrderedMap Key Value

namespace Attributes

/-- Removes an attribute if it is there. Where there is none, values that cannot be names will do. -/
def remove (a : Attributes) (name : Value) : Except Fault Attributes :=
  match name with
  | .null => .error .attributeNameMissing
  | name => if a.isEmpty then .ok a else name.requireKey.map a.erase

/-- Sets an attribute, or removes it if the value is missing. -/
def set (a : Attributes) (name value : Value) : Except Fault Attributes :=
  match name, value with
  | .null, _ => .error .attributeNameMissing
  | name, .null => a.remove name
  | name, v => name.requireKey.map fun k => a.insert k v

/-- The value of an attribute that must be there. -/
def item (a : Attributes) (name : Key) : Except Fault Value :=
  match a.get? name with
  | some v => .ok v
  | none => .error (.missing (.ofKey name))

/-- Is there an attribute of this name? Values that cannot be names cannot even be looked for. -/
def has (a : Attributes) (name : Value) : Except Fault Bool :=
  match name.key? with
  | some k => .ok (a.contains k)
  | none => .error .wrongType

/-- The names as values. -/
def names (a : Attributes) : List Value := a.keys.map Value.ofKey

/-- The literal of attributes. -/
def literal (a : Attributes) : String :=
  let content := (Value.map .none a.entries).literal
  s!"Attributes({content})"

end Attributes

/-- An operation on attributes. -/
inductive AttributesOp where
  /-- Gives the value of an attribute, or else the value given here. -/
  | get (name : Key) (default : Value)
  /-- Sets an attribute. -/
  | set (name value : Value)
  /-- Removes an attribute if it is there. -/
  | remove (name : Value)
  /-- Removes all attributes. -/
  | clear
  /-- Gives the names. -/
  | names
  /-- Gives the value of an attribute that must be there. -/
  | item (name : Key)
  /-- Tells whether there is an attribute of this name. -/
  | has (name : Value)
  /-- Gives the number of attributes. -/
  | size
  /-- Tells whether there are attributes. -/
  | nonempty
  /-- Gives the literal. -/
  | literal

namespace AttributesOp

/-- Does an operation on attributes. -/
def run (op : AttributesOp) (a : Attributes) : Except Fault (Answer × Attributes) :=
  match op with
  | .get name default => .ok (.value ((a.get? name).getD default), a)
  | .set name value => (a.set name value).map (.none, ·)
  | .remove name => (a.remove name).map (.none, ·)
  | .clear => .ok (.none, .empty)
  | .names => .ok (.list a.names, a)
  | .item name => (a.item name).map fun v => (.value v, a)
  | .has name => (a.has name).map fun b => (.bool b, a)
  | .size => .ok (.int a.size, a)
  | .nonempty => .ok (.bool !a.isEmpty, a)
  | .literal => .ok (.text a.literal, a)

end AttributesOp

end HttpExchange

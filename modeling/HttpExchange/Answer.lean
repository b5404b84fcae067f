import HttpExchange.Action
import HttpExchange.Value

/-!
# Answers

What an operation gives back: a value, a choice, access to something that lives on in the object that was
asked, or an operation that was named and not done.
-/

namespace HttpExchange

/-- Something that lives on in the object that was asked. -/
inductive Handle where
  /-- A byte stream over a request body, by its number among the accessors handed out. -/
  | stream (number : Nat)
  /-- A reader over a request body, by its number among the accessors handed out. -/
  | reader (number : Nat)
  /-- The body of a response. -/
  | sink
  /-- The configuration. -/
  | config
  /-- The headers. -/
  | headers
  /-- The parameters. -/
  | parameters
  /-- The attributes. -/
  | attributes
  /-- The request behind its hosted view. -/
  | request
  /-- The response behind its hosted view. -/
  | response
  deriving DecidableEq, Repr

/-- One of a fixed number of named choices. -/
structure Choice where
  /-- What is chosen. -/
  kind : String
  /-- The name of the choice. -/
  name : String
  /-- The integer or text that stands for the choice. -/
  code : Value
  deriving Repr

/-- What a view of a map shows. -/
inductive MapView where
  /-- The names. -/
  | names
  /-- The values. -/
  | values
  /-- The names with their values. -/
  | pairs
  deriving DecidableEq, Repr

/-- The name of a view. -/
def MapView.name : MapView → String
  | .names => "dict_keys"
  | .values => "dict_values"
  | .pairs => "dict_items"

/-- What a view shows of the entries of a map. -/
def MapView.items (view : MapView) (entries : List (Key × Value)) : List Value :=
  match view with
  | .names => entries.map fun e => .ofKey e.1
  | .values => entries.map Prod.snd
  | .pairs => entries.map fun e => .ofTuple [.ofKey e.1, e.2]

/-- What an operation gives back. -/
inductive Answer where
  /-- A value. -/
  | value (v : Value)
  /-- The values of a header; who holds them sees later changes. The name is in lower case. -/
  | headerValues (name : String) (values : List Value)
  /-- The values of a header that was removed, by their number among such values. -/
  | formerValues (number : Nat) (values : List Value)
  /-- A map that cannot be written. -/
  | readOnly (mark : Mark) (entries : List (Key × Value))
  /-- A view of a map. -/
  | view (view : MapView) (map : Value)
  /-- A choice. -/
  | choice (c : Choice)
  /-- Access to a part of the object. -/
  | handle (h : Handle)
  /-- An operation that is named and not done, of a value or of something else. -/
  | operation (ofValue : Bool)

namespace Answer

/-- The answer of an operation that gives nothing back. -/
def none : Answer := .value .null

/-- A truth value. -/
def bool (b : Bool) : Answer := .value (.bool b)

/-- An integer that was computed. -/
def int (n : Int) : Answer := .value (.ofInt n)

/-- A text that was composed. -/
def text (s : String) : Answer := .value (.ofText s)

/-- A text that was composed, or nothing. -/
def text? (s : Option String) : Answer := .value (.ofText? s)

/-- A list of texts that were composed. -/
def texts (ss : List String) : Answer := .value (.ofList (ss.map .ofText))

/-- A list of values. -/
def list (vs : List Value) : Answer := .value (.ofList vs)

/-- A sequence of bytes. -/
def bytes (bs : List UInt8) : Answer := .value (.ofBytes bs)

end Answer

/-- The action that does `x` and answers nothing. -/
def Action.silently {σ ε : Type} (x : Action σ ε Unit) : Action σ ε Answer := do
  x
  return .none

end HttpExchange

import HttpExchange.Action
import HttpExchange.Value.Operation

/-!
# Request parameters

A parameter has a name, compared exactly, and a list of values. Parameters are given by whoever builds
the request. A whole map of them may be given at once; its values must be texts or lists of texts, and
its entries take effect one after another until one is refused.
-/

namespace HttpExchange

/-- The values of parameters by name. -/
abbrev Parameters := OrderedMap Key (List Value)

namespace Parameters

/-! ## Single parameters -/

/-- A name that is not missing. -/
def requireName : Key → Except Fault Key
  | .null => .error .parameterNameMissing
  | k => .ok k

/-- Replaces the values of a parameter. -/
def set (p : Parameters) (name : Key) (values : List Value) : Except Fault Parameters :=
  (requireName name).map fun k => p.insert k values

/-- Appends values to a parameter, which is created if necessary. -/
def add (p : Parameters) (name : Key) (values : List Value) : Except Fault Parameters :=
  (requireName name).map fun k => p.insert k ((p.get? k).getD [] ++ values)

/-- Removes a parameter if it is there. Where there is none, values that cannot be names will do. -/
def remove (p : Parameters) (name : Value) : Except Fault Parameters :=
  match name with
  | .null => .error .parameterNameMissing
  | name => if p.isEmpty then .ok p else name.requireKey.map p.erase

/-- The values of a parameter, if it is there. -/
def values? (p : Parameters) (name : Key) : Except Fault (Option (List Value)) :=
  (requireName name).map p.get?

/-- The first value of a parameter, if it has one. -/
def first? (p : Parameters) (name : Key) : Except Fault (Option Value) :=
  (p.values? name).map fun vs => vs.bind List.head?

/-- The first value of a parameter that must have one. -/
def item (p : Parameters) (name : Key) : Except Fault Value := do
  match ← p.first? name with
  | none => throw (.missing (.ofKey name))
  | some .null => throw (.missing (.ofKey name))
  | some v => return v

/-! ## Maps of parameters -/

variable {ε : Type}

/-- The values that a map gives for a parameter: a text, or a list of texts. -/
def valuesOf (name : Key) (value : Value) : Except Fault (List Value) :=
  match value with
  | .text m s => .ok [.text m s]
  | .list _ items | .tuple _ items =>
    if items.all Value.isText then .ok items else .error (.parameterNotText name value)
  | v => .error (.parameterNotText name v)

/-- Writes the values that a map gives for a parameter. -/
def writeEntry (p : Parameters) (replace : Bool) (entry : Key × Value) : Except Fault Parameters := do
  let values ← valuesOf entry.1 entry.2
  if replace then p.set entry.1 values else p.add entry.1 values

/-- Writes the entries of a map, over the present values or behind them, up to the first entry that is
refused. -/
def writeEntries (replace : Bool) : List (Key × Value) → Action Parameters ε Unit
  | [] => pure ()
  | entry :: rest => do
    .update fun p => p.writeEntry replace entry
    writeEntries replace rest

/-- Writes the entries of a map, which a value must be. -/
def writeMap (replace : Bool) : Value → Action Parameters ε Unit
  | .map _ entries => writeEntries replace entries
  | _ => .fail .noSuchProperty

/-- The parameters of a map, none if there is no map. -/
def ofMap : Value → Except Fault Parameters
  | .null => .ok .empty
  | v =>
    let o : Outcome Parameters Empty Unit := writeMap true v .empty
    o.result.map fun _ => o.state

/-! ## Views -/

/-- The names with their values, one pair for each value. -/
def pairs (p : Parameters) : List (Key × Value) :=
  p.entries.flatMap fun e => e.2.map (e.1, ·)

/-- The parameters as a map from names to fixed sequences of values. -/
def toMap (p : Parameters) : List (Key × Value) :=
  p.entries.map fun e => (e.1, .ofTuple e.2)

/-- The literal of parameters. -/
def literal (p : Parameters) : String :=
  let content := (Value.map .none (p.entries.map fun e => (e.1, .ofList e.2))).literal
  s!"Parameters({content})"

end Parameters

/-! ## Operations -/

/-- An operation on parameters. -/
inductive ParametersOp where
  /-- Replaces the values of a parameter. -/
  | set (name : Key) (values : List Value)
  /-- Appends values to a parameter. -/
  | add (name : Key) (values : List Value)
  /-- Replaces the values of the parameters in a map. -/
  | update (map : Value)
  /-- Appends the values in a map. -/
  | extend (map : Value)
  /-- Removes a parameter if it is there. -/
  | remove (name : Value)
  /-- Removes all parameters. -/
  | clear
  /-- Gives the first value, or else the value given here. -/
  | get (name : Key) (default : Value)
  /-- Gives all values of a parameter that is there. -/
  | valuesOf (name : Key)
  /-- Gives the names. -/
  | names
  /-- Gives a name and a value for each value. -/
  | pairs
  /-- Gives the parameters as a map that cannot be written. -/
  | toMap
  /-- Gives the first value of a parameter that must have one. -/
  | item (name : Key)
  /-- Tells whether there is a parameter of this name. -/
  | has (name : Value)
  /-- Gives the number of parameters. -/
  | size
  /-- Tells whether there are parameters. -/
  | nonempty
  /-- Gives the literal. -/
  | literal

namespace ParametersOp

variable {ε : Type}

/-- Does an operation on parameters. -/
def run : ParametersOp → Action Parameters ε Answer
  | .set name values => .silently (.update fun p => p.set name values)
  | .add name values => .silently (.update fun p => p.add name values)
  | .update map => .silently (Parameters.writeMap true map)
  | .extend map => .silently (Parameters.writeMap false map)
  | .remove name => .silently (.update fun p => p.remove name)
  | .clear => .silently (.modify fun _ => .empty)
  | .get name default => .query fun p => (p.first? name).map fun v => .value (v.getD default)
  | .valuesOf name => .query fun p => (p.values? name).map fun
    | some vs => .list vs
    | none => .none
  | .names => .query fun p => .ok (.list (p.keys.map Value.ofKey))
  | .pairs => .query fun p => .ok (.list (p.pairs.map fun e => .ofTuple [.ofKey e.1, e.2]))
  | .toMap => .query fun p => .ok (.readOnly .none p.toMap)
  | .item name => .query fun p => (p.item name).map .value
  | .has (.text m name) => .query fun p => .ok (.bool (p.contains (.text m name)))
  | .has _ => .query fun _ => .ok (.bool false)
  | .size => .query fun p => .ok (.int p.size)
  | .nonempty => .query fun p => .ok (.bool !p.isEmpty)
  | .literal => .query fun p => .ok (.text p.literal)

end ParametersOp

end HttpExchange

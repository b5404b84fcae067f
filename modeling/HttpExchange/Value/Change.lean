import HttpExchange.Sorting
import HttpExchange.Value.Identity
import HttpExchange.Value.Operation

/-!
# Changes of values

Lists, maps, sets, parts and locales can be changed. A change leaves the mark of a thing as it is, so that
it can be made wherever the thing is kept.

## Main statements

* `mark_run`: a change leaves the mark of a thing as it is.
-/

namespace HttpExchange

/-- An operation that changes a list, a map, a set, a part or a locale. -/
inductive ChangeOp where
  /-- Puts an item at the end of a list. -/
  | append (item : Value)
  /-- Puts the items of a value at the end of a list. -/
  | extend (items : Value)
  /-- Puts an item before the one at a place of a list. -/
  | insert (place item : Value)
  /-- Removes the first item of a list that is equal to the given one, or a name of a set. -/
  | remove (item : Value)
  /-- Puts a name into a set. -/
  | add (name : Value)
  /-- Removes a name of a set if it is there. -/
  | discard (name : Value)
  /-- Turns the order of a list around. -/
  | reverse
  /-- Sorts a list. -/
  | sort
  /-- Removes everything from a list, map or set. -/
  | clear
  /-- Removes an item of a list, the last one if no place is given, or a name of a map, and gives what was
  there, or else the value given here. From a set any name is removed and given. -/
  | pop (key default : Option Value)
  /-- Removes the last entry of a map and gives it. -/
  | popLast
  /-- Sets the item at a place of a list, or the value of a name of a map. -/
  | setItem (key item : Value)
  /-- Removes the item at a place of a list, or a name of a map. -/
  | deleteItem (key : Value)
  /-- Gives the value of a name of a map, after it was set if there was none. -/
  | setDefault (key value : Value)
  /-- Sets the values of the names of another map or of pairs, or puts the items of values into a set. -/
  | update (others : List Value)
  /-- Combines a set with the items of other values. -/
  | combine (how : SetCombination) (others : List Value)
  /-- Sets a field of a part or locale. -/
  | setField (name : String) (value : Value)

namespace ChangeOp

variable {ε : Type}

/-! ## Lists -/

/-- The place before which an item is inserted into a list of the given length. -/
def insertionPlace (length : Nat) (place : Int) : Nat :=
  min length (if place < 0 then place + length else place).toNat

/-- What a change of a list gives, and the list after it. -/
def runList (op : ChangeOp) (items : List Value) : Except Fault (Answer × List Value) :=
  match op with
  | .append item => .ok (.none, items ++ [item])
  | .extend v => v.requireKeptItems.map fun more => (.none, items ++ more)
  | .insert place item => do
    let n ← place.requirePlace
    if !Numeral.fitsSigned 64 n then throw (.sizeTooLarge true)
    return (.none, items.insertIdx (insertionPlace items.length n) item)
  | .remove item =>
    match items.findIdx? (Value.isEqual item) with
    | some i => .ok (.none, items.eraseIdx i)
    | none => .error .notRemovable
  | .reverse => .ok (.none, items.reverse)
  | .clear => .ok (.none, [])
  | .pop _ (some _) => .error .wrongType
  | .pop key none => do
    let n ← (key.getD (.ofInt (-1))).requirePlace
    if !Numeral.fitsSigned 64 n then throw (.sizeTooLarge true)
    match Value.placeIn items.length n with
    | some i => return (.value (items.getD i .null), items.eraseIdx i)
    | none => throw .outOfRange
  | .setItem key item => do
    let i ← key.requirePlaceIn items.length
    return (.none, items.set i item)
  | .deleteItem key => do
    let i ← key.requirePlaceIn items.length
    return (.none, items.eraseIdx i)
  | _ => .error .noSuchProperty

/-- Sorts a list, as far as its items have an order. -/
def sortList : Action (List Value) ε Unit := fun items =>
  let sorted := Sorting.sort Value.isLess? items
  ⟨sorted.items, [], if sorted.finished then .ok () else .error .wrongType⟩

/-! ## Maps -/

/-- What a change of a map gives, and the map after it. -/
def runMap (op : ChangeOp) (entries : List (Key × Value)) :
    Except Fault (Answer × List (Key × Value)) :=
  match op with
  | .clear => .ok (.none, [])
  | .pop none _ => .error .wrongType
  | .pop (some key) default => do
    if entries.isEmpty then return ← (default.elim (throw (.missing key)) fun v => return (.value v, []))
    let k ← key.requireKey
    match (OrderedMap.find? k entries).or default with
    | some v => return (.value v, OrderedMap.drop k entries)
    | none => throw (.missing key)
  | .popLast =>
    match entries.getLast? with
    | some e => .ok (.value (.ofTuple [.ofKey e.1, e.2]), entries.dropLast)
    | none => .error (.missing (.ofText "popitem(): dictionary is empty"))
  | .setItem key v => key.requireKey.map fun k => (.none, OrderedMap.put k v entries)
  | .deleteItem key => do
    let k ← key.requireKey
    if (OrderedMap.find? k entries).isNone then throw (.missing key)
    return (.none, OrderedMap.drop k entries)
  | .setDefault key v => do
    let k ← key.requireKey
    match OrderedMap.find? k entries with
    | some w => return (.value w, entries)
    | none => return (.value v, OrderedMap.put k v entries)
  | _ => .error .noSuchProperty

/-- The name and value that a pair gives, the pair being the one of the given number. -/
def requirePair (number : Nat) (pair : Value) : Except Fault (Key × Value) := do
  match ← pair.requireKeptItems with
  | [key, v] => return (← key.requireKey, v)
  | items => throw (.notPair number items.length)

/-- Sets the values of names that pairs give, one after another, the pairs being numbered. -/
def setPairs (number : Nat) : List Value → Action (List (Key × Value)) ε Unit
  | [] => pure ()
  | pair :: rest => do
    .update fun es => (requirePair number pair).map fun e => OrderedMap.put e.1 e.2 es
    setPairs (number + 1) rest

/-- Sets the values of names that another map or pairs give. -/
def updateMap : List Value → Action (List (Key × Value)) ε Unit
  | [] => pure ()
  | [.map _ others] => .modify fun es => others.foldl (fun es e => OrderedMap.put e.1 e.2 es) es
  | [v] => do
    let pairs ← .query fun _ => v.requireItems
    setPairs 0 pairs
  | _ => .fail .wrongType

/-! ## Sets -/

/-- What a change of a set gives, and the set after it. -/
def runSet (op : ChangeOp) (names : KeySet) : Except Fault (Answer × KeySet) :=
  match op with
  | .add name => name.requireKey.map fun k => (.none, names.insert k)
  | .discard name => name.requireKey.map fun k => (.none, names.erase k)
  | .remove name => do
    let k ← name.requireKey
    if names.contains k then return (.none, names.erase k) else throw (.missing name)
  | .clear => .ok (.none, .empty)
  | .pop none none =>
    match names.items with
    | k :: _ => .ok (.value (.ofKey k), names.erase k)
    | [] => .error (.missing (.ofText "pop from an empty set"))
  | .pop _ _ => .error .wrongType
  | _ => .error .noSuchProperty

/-! ## All values -/

/-- A locale after one of its fields was set. -/
def setLocaleField (name : String) (value : Value) (l : Locale) : Except Fault Locale :=
  match name, value with
  | "language", .text _ s => .ok { l with language := s }
  | "country", .text _ s => .ok { l with country := s }
  | "variant", .text _ s => .ok { l with variant := s }
  | _, _ => .error .noSuchProperty

/-- The fault of setting or removing an item of something whose items stay what they are. -/
def itemFault (key : Value) : Fault :=
  match key.requirePlace with
  | .ok n => if Numeral.fitsSigned 64 n then .wrongType else .outOfRange
  | .error fault => fault

/-- An action on a part of a value, as an action on the value that it becomes the part of. -/
def onPart {τ α : Type} (part : τ) (whole : τ → Value) (x : Action τ ε α) : Action Value ε α :=
  .within (fun _ => part) (fun _ => whole) id x

/-- Changes a value. Where it is changed by several things, one after another, those that came before a
fault stay. -/
def run (op : ChangeOp) : Action Value ε Answer := fun v =>
  match v, op with
  | .list m items, .sort => onPart items (.list m) (.silently sortList) v
  | .list m items, op => onPart items (.list m) (.atomic op.runList) v
  | .map m entries, .update others => onPart entries (.map m) (.silently (updateMap others)) v
  | .map m entries, op => onPart entries (.map m) (.atomic op.runMap) v
  | .set m names, .update others => onPart names (.set m) (.silently (KeySet.combine .union others)) v
  | .set m names, .combine how others => onPart names (.set m) (.silently (KeySet.combine how others)) v
  | .set _ _, .setItem key _ | .set _ _, .deleteItem key => ⟨v, [], .error (itemFault key)⟩
  | .set m names, op => onPart names (.set m) (.atomic op.runSet) v
  | .part m fields, .setField name w => ⟨.part m (OrderedMap.put name w fields), [], .ok .none⟩
  | .locale m l, .setField name w => onPart l (.locale m) (.silently (.update (setLocaleField name w))) v
  | .tuple _ _, .setItem key _ | .tuple _ _, .deleteItem key | .text _ _, .setItem key _
  | .text _ _, .deleteItem key | .bytes _ _, .setItem key _ | .bytes _ _, .deleteItem key =>
    ⟨v, [], .error (itemFault key)⟩
  | v, .setItem _ _ | v, .deleteItem _ => ⟨v, [], .error .wrongType⟩
  | v, _ => ⟨v, [], .error .noSuchProperty⟩

/-- A change leaves the mark of a thing as it is. -/
theorem mark_run (op : ChangeOp) (v : Value) : (op.run v : Outcome Value ε Answer).state.mark = v.mark := by
  unfold run
  split <;> rfl

end ChangeOp

end HttpExchange

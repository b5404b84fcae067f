import HttpExchange.Action
import HttpExchange.Answer
import HttpExchange.Text.Search
import HttpExchange.Value.Displayed
import HttpExchange.Value.Order
import HttpExchange.Value.Vocabulary

/-!
# Operations on values

Who keeps a value may ask for its size and items, look for something in it, and write it out. Only values
that consist of items answer all of these. Sets can be combined and compared with the items of other
values. Asking changes nothing.
-/

namespace HttpExchange

/-- How a set is combined with the items of other values. -/
inductive SetCombination where
  /-- The names of the set and the items of the values. -/
  | union
  /-- The names of the set that are items of all values. -/
  | intersection
  /-- The names of the set that are items of no value. -/
  | difference
  /-- The names of the set and the items of the value that are not both. -/
  | symmetricDifference
  deriving DecidableEq, Repr

/-- How a set may be related to the items of another value. -/
inductive SetRelation where
  /-- All its names are among the items. -/
  | subset
  /-- All items are among its names. -/
  | superset
  /-- None of its names is among the items. -/
  | disjoint
  deriving DecidableEq, Repr

/-- An operation that asks a value for something. -/
inductive ValueOp where
  /-- Gives the literal. -/
  | literal
  /-- Gives the display. -/
  | display
  /-- Tells whether the value counts as true. -/
  | nonempty
  /-- Gives the number of items. -/
  | size
  /-- Gives the items. -/
  | items
  /-- Tells whether something is among the items. -/
  | has (item : Value)
  /-- Gives the value of a name that must be in a map, or the item at a place. -/
  | item (key : Value)
  /-- Gives the value of a name in a map, or else the value given here. -/
  | get (key default : Value)
  /-- Gives a view of a map. -/
  | view (view : MapView)
  /-- Gives the place of the first item that is equal to the given one, from a first place on and before a
  last one if they are given. -/
  | index (item : Value) (bounds : List Value)
  /-- Gives the number of items that are equal to the given one, within the same bounds. -/
  | count (item : Value) (bounds : List Value)
  /-- Gives a list, map or set with the same items. -/
  | copy
  /-- Gives the set that results from combining a set with the items of other values. -/
  | combine (how : SetCombination) (others : List Value)
  /-- Tells whether a set is related to the items of another value. -/
  | relate (relation : SetRelation) (other : Value)
  /-- Gives a field of a part, locale, or date and time. -/
  | field (name : String)
  /-- Gives the language tag of a locale. -/
  | tag

namespace Value

/-- The items of a value that must have items. -/
def requireItems (v : Value) : Except Fault (List Value) :=
  match v.items? with
  | some items => .ok items
  | none => .error .wrongType

/-- The items of a value that must have items, when they are kept. -/
def requireKeptItems (v : Value) : Except Fault (List Value) :=
  match v.keptItems? with
  | some items => .ok items
  | none => .error .wrongType

/-- The name that a value must be. -/
def requireKey (v : Value) : Except Fault Key :=
  match v.key? with
  | some k => .ok k
  | none => .error .wrongType

/-- The names that the items of a value must be. -/
def requireKeys (v : Value) : Except Fault (List Key) := do
  (← v.requireKeptItems).mapM requireKey

/-- The text that a value must be. -/
def requireText : Value → Except Fault String
  | .text _ s => .ok s
  | _ => .error .wrongType

/-- The integer that a place is given by. -/
def requirePlace : Value → Except Fault Int
  | .int _ n => .ok n
  | .bool b => .ok (if b then 1 else 0)
  | _ => .error .wrongType

/-- The place in a sequence of the given length; negative places count from the end. -/
def placeIn (length : Nat) (place : Int) : Option Nat :=
  let place := if place < 0 then place + length else place
  if 0 ≤ place ∧ place < length then some place.toNat else none

/-- The place that a value gives in a sequence of the given length. -/
def requirePlaceIn (length : Nat) (key : Value) : Except Fault Nat := do
  match placeIn length (← key.requirePlace) with
  | some i => return i
  | none => throw .outOfRange

/-- A bound in a sequence of the given length; negative ones count from the end. Where `optional` holds,
nothing may stand for a missing bound. -/
def requireBound (optional : Bool) (length missing : Nat) : Option Value → Except Fault Nat
  | none => .ok missing
  | some .null => if optional then .ok missing else .error .wrongType
  | some v => v.requirePlace.map fun n : Int => (if n < 0 then n + length else n).toNat

/-- The bounds of a part of a sequence of the given length: its first place and the one behind it. -/
def requireBounds (optional : Bool) (length : Nat) (bounds : List Value) : Except Fault (Nat × Nat) := do
  let first ← requireBound optional length 0 bounds[0]?
  let last ← requireBound optional length length bounds[1]?
  return (first, min length last)

/-- The bytes that are looked for in a sequence of bytes: another such sequence, or a single byte. -/
def requireBytes : Value → Except Fault (List UInt8)
  | .bytes _ bs => .ok bs
  | v => do
    let n ← v.requirePlace
    if 0 ≤ n ∧ n < 256 then return [UInt8.ofNat n.toNat] else throw .byteOutOfRange

/-! ## Asking -/

/-- Is something among the items of a value? In a text other texts are looked for, in a sequence of bytes
other such sequences and bytes, in a map names. -/
def has (v item : Value) : Except Fault Bool :=
  match v, item with
  | .text _ s, .text _ t => .ok (Text.indexOf? t.toList s.toList).isSome
  | .text _ _, _ => .error .wrongType
  | .bytes _ bs, item => item.requireBytes.map fun cs => (Text.indexOf? cs bs).isSome
  | .map _ entries, item => item.requireKey.map fun k => (OrderedMap.find? k entries).isSome
  | .set _ names, item => item.requireKey.map names.contains
  | .list _ items, item | .tuple _ items, item => .ok (items.any (isEqual item))
  | _, _ => .error .wrongType

/-- The value of a name that must be in a map, or the item at a place. -/
def item (v key : Value) : Except Fault Value :=
  match v with
  | .map _ entries => do
    match OrderedMap.find? (← key.requireKey) entries with
    | some w => return w
    | none => throw (.missing key)
  | .list _ _ | .tuple _ _ | .text _ _ | .bytes _ _ => do
    let items ← v.requireItems
    return items.getD (← key.requirePlaceIn items.length) .null
  | _ => .error .wrongType

/-- The value of a name in a map, or else the given one. -/
def getOr (v key default : Value) : Except Fault Value :=
  match v with
  | .map _ entries => key.requireKey.map fun k => (OrderedMap.find? k entries).getD default
  | _ => .error .noSuchProperty

/-- The entries of a value that must be a map. -/
def requireEntries : Value → Except Fault (List (Key × Value))
  | .map _ entries => .ok entries
  | _ => .error .noSuchProperty

/-- Where a word first begins in the part of a sequence between two bounds. -/
def indexWithin {α : Type} [BEq α] (word : List α) (bounds : Nat × Nat) (cs : List α) : Option Nat :=
  if bounds.2 < bounds.1 then none
  else (Text.indexOf? word ((cs.take bounds.2).drop bounds.1)).map (bounds.1 + ·)

/-- The number of places of a word in the part of a sequence between two bounds. -/
def countWithin {α : Type} [BEq α] (word : List α) (bounds : Nat × Nat) (cs : List α) : Nat :=
  if bounds.2 < bounds.1 then 0 else Text.count word ((cs.take bounds.2).drop bounds.1)

/-- The place of the first item within bounds that is equal to the given one. -/
def indexOfItem (items : List Value) (item : Value) (bounds : List Value) : Except Fault (Option Nat) := do
  let (first, last) ← requireBounds false items.length bounds
  return (((items.take last).drop first).findIdx? (isEqual item)).map (first + ·)

/-- The place of the first item that is equal to the given one, or where the given text or bytes are first
found. -/
def index (v item : Value) (bounds : List Value) : Except Fault Nat :=
  match v, item with
  | .list _ items, item => do
    match ← indexOfItem items item bounds with
    | some i => return i
    | none => throw (.notListed item)
  | .tuple _ items, item => do
    match ← indexOfItem items item bounds with
    | some i => return i
    | none => throw .notInTuple
  | .text _ s, item => do
    let bounds ← requireBounds true s.length bounds
    match indexWithin (← item.requireText).toList bounds s.toList with
    | some i => return i
    | none => throw .notInText
  | .bytes _ bs, item => do
    let bounds ← requireBounds true bs.length bounds
    match indexWithin (← item.requireBytes) bounds bs with
    | some i => return i
    | none => throw .notInBytes
  | _, _ => .error .noSuchProperty

/-- The number of items that are equal to the given one, or of places of the given text or bytes. Only texts
and bytes take bounds. -/
def count (v item : Value) (bounds : List Value) : Except Fault Nat :=
  match v, item with
  | .list _ items, item | .tuple _ items, item =>
    if bounds.isEmpty then .ok (items.countP (isEqual item)) else .error .wrongType
  | .text _ s, item => do
    let bounds ← requireBounds true s.length bounds
    return countWithin (← item.requireText).toList bounds s.toList
  | .bytes _ bs, item => do
    let bounds ← requireBounds true bs.length bounds
    return countWithin (← item.requireBytes) bounds bs
  | _, _ => .error .noSuchProperty

/-- A list, map or set that nobody keeps, with the same items. -/
def copy : Value → Except Fault Value
  | .list _ items => .ok (.ofList items)
  | .map _ entries => .ok (.map .none entries)
  | .set _ names => .ok (.ofSet names)
  | _ => .error .noSuchProperty

/-- A field of a date and time. -/
def dateTimeField (d : DateTime) : String → Except Fault Value
  | "year" => .ok (.ofInt d.date.year)
  | "month" => .ok (.ofInt d.date.month)
  | "day" => .ok (.ofInt d.date.day)
  | "hour" => .ok (.ofInt d.time.hour)
  | "minute" => .ok (.ofInt d.time.minute)
  | "second" => .ok (.ofInt d.time.second)
  | "microsecond" => .ok (.ofInt d.time.micro)
  | _ => .error .noSuchProperty

/-- The value of a field of a part, locale, or date and time. -/
def field (v : Value) (name : String) : Except Fault Value :=
  match v, name with
  | .part _ fields, name => (field? name fields).elim (.error .noSuchProperty) .ok
  | .locale m l, "language" => .ok (l.languageValue m)
  | .locale m l, "country" => .ok (l.countryValue m)
  | .locale m l, "variant" => .ok (l.variantValue m)
  | .dateTime _ d, name => dateTimeField d name
  | _, _ => .error .noSuchProperty

/-- The set of a value that must be one. -/
def requireSet : Value → Except Fault KeySet
  | .set _ names => .ok names
  | _ => .error .noSuchProperty

/-- The language tag of a locale. -/
def languageTag : Value → Except Fault Value
  | .locale m l => .ok (l.tagValue m)
  | _ => .error .noSuchProperty

end Value

/-! ## Sets -/

namespace KeySet

variable {ε : Type}

/-- Changes a set by the items of a value, one after another. -/
def eachItem (change : KeySet → Key → KeySet) : List Value → Action KeySet ε Unit
  | [] => pure ()
  | item :: rest => do
    .update fun s => item.requireKey.map (change s)
    eachItem change rest

/-- Changes a set by the items of values, one value after another. -/
def eachOther (change : KeySet → Key → KeySet) : List Value → Action KeySet ε Unit
  | [] => pure ()
  | other :: rest => do
    let items ← .query fun _ => other.requireKeptItems
    eachItem change items
    eachOther change rest

/-- The items that a set holds, put into `found` one after another until no more can be found. -/
def meetItems (s : KeySet) (found : KeySet) : List Value → Except Fault KeySet
  | [] => .ok found
  | item :: rest => item.requireKey.bind fun k =>
    if s.contains k then
      if s.size ≤ (found.insert k).size then .ok (found.insert k) else meetItems s (found.insert k) rest
    else meetItems s found rest

/-- The items of a value that a set holds. -/
def meet (s : KeySet) (other : Value) : Except Fault KeySet :=
  other.requireKeptItems.bind (meetItems s .empty)

/-- Combines a set with the items of other values. Adding and taking away happen item by item; the other
combinations change nothing if they fail. -/
def combine (how : SetCombination) (others : List Value) : Action KeySet ε Unit :=
  match how with
  | .union => eachOther insert others
  | .difference => eachOther erase others
  | .intersection => .update fun s => others.foldlM meet s
  | .symmetricDifference => .update fun s => do
    return ((← others.mapM Value.requireKeys).map ofList).foldl symmDiff s

/-- The set that results from combining a set with the items of other values. -/
def combined (how : SetCombination) (others : List Value) (s : KeySet) : Except Fault KeySet :=
  let o : Outcome KeySet Empty Unit := combine how others s
  o.result.map fun _ => o.state

/-- Does `p` hold for all names that items are? The items behind the first one that fails do not matter. -/
def allItems (p : Key → Bool) : List Value → Except Fault Bool
  | [] => .ok true
  | item :: rest => item.requireKey.bind fun k => if p k then allItems p rest else .ok false

/-- Is a set related to the items of another value? -/
def relates (relation : SetRelation) (other : Value) (s : KeySet) : Except Fault Bool :=
  match relation with
  | .subset => other.requireKeys.map fun keys => s.isSubset (ofList keys)
  | .superset => other.requireItems.bind (allItems s.contains)
  | .disjoint => other.requireItems.bind (allItems fun k => !s.contains k)

end KeySet

/-- The operation that a value has under a name. -/
def Value.mentioned (v : Value) (name : String) : Except Fault Answer :=
  if !v.vocabulary.contains name then .error .noSuchProperty
  else match v with
    | .locale _ _ => .ok (.operation false)
    | _ => .ok (.operation true)

/-- Asks a value for something. -/
def ValueOp.run (op : ValueOp) (v : Value) : Except Fault Answer :=
  match op with
  | .literal => .ok (.value v.written)
  | .display => .ok (.value v.displayed)
  | .nonempty => .ok (.bool v.isTruthy)
  | .size => v.requireItems.map fun items => .int items.length
  | .items => v.requireItems.map .list
  | .has sought => (v.has sought).map .bool
  | .item key => (v.item key).map .value
  | .get key default => (v.getOr key default).map .value
  | .view shown => v.requireEntries.map fun _ => .view shown v
  | .index sought bounds => (v.index sought bounds).map (.int ·)
  | .count sought bounds => (v.count sought bounds).map (.int ·)
  | .copy => v.copy.map .value
  | .combine how others => do
    return .value (.ofSet (← KeySet.combined how others (← v.requireSet)))
  | .relate relation other => do
    return .bool (← KeySet.relates relation other (← v.requireSet))
  | .field name => (v.field name).map (.value ·) <|> v.mentioned name
  | .tag => v.languageTag.map .value

end HttpExchange

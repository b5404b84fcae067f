import HttpExchange.KeySet
import HttpExchange.OrderedMap

/-!
# Values

Header values, attributes and parameters are handed over as they are and only become text where they are
read as text. `Value` is what may be handed over.

All values but the absence of one and truth values are *things*, which have a mark. Lists, maps, sets,
parts and locales can be changed, and what changes one of them is seen wherever it is kept.
-/

namespace HttpExchange

/-- What may be stored as a header value or an attribute. -/
inductive Value where
  /-- The absence of a value. -/
  | null
  /-- A truth value. -/
  | bool (b : Bool)
  /-- An integer. -/
  | int (mark : Mark) (n : Int)
  /-- A floating-point number. -/
  | float (mark : Mark) (x : Binary64)
  /-- A text. -/
  | text (mark : Mark) (s : String)
  /-- A sequence of bytes. -/
  | bytes (mark : Mark) (bs : List UInt8)
  /-- A list. -/
  | list (mark : Mark) (items : List Value)
  /-- A fixed sequence, written differently from a list but treated like one. -/
  | tuple (mark : Mark) (items : List Value)
  /-- A map from distinct names, in the order of insertion. -/
  | map (mark : Mark) (entries : List (Key × Value))
  /-- A set of names. -/
  | set (mark : Mark) (names : KeySet)
  /-- A date and time. -/
  | dateTime (mark : Mark) (d : DateTime)
  /-- A locale. -/
  | locale (mark : Mark) (l : Locale)
  /-- A part of a multipart message, which has named fields. -/
  | part (mark : Mark) (fields : List (String × Value))
  deriving Repr, Inhabited

namespace Value

/-! ## Making values -/

/-- An integer that nobody keeps. -/
def ofInt (n : Int) : Value := .int .none n

/-- A text that nobody keeps. -/
def ofText (s : String) : Value := .text .none s

/-- A sequence of bytes that nobody keeps. -/
def ofBytes (bs : List UInt8) : Value := .bytes .none bs

/-- A list that nobody keeps. -/
def ofList (items : List Value) : Value := .list .none items

/-- A fixed sequence that nobody keeps. -/
def ofTuple (items : List Value) : Value := .tuple .none items

/-- The map that results from inserting entries one after another: of two entries with one name, the
first gives the place and the last gives the value. -/
def ofEntries (entries : List (Key × Value)) : Value := .map .none (OrderedMap.ofList entries).entries

/-- A set that nobody keeps. -/
def ofSet (names : KeySet) : Value := .set .none names

/-- A locale that nobody keeps. -/
def ofLocale (l : Locale) : Value := .locale .none l

/-- A text, or nothing. -/
def ofText? : Option String → Value
  | none => .null
  | some s => .ofText s

mutual

/-- A name as a value. -/
def ofKey : Key → Value
  | .null => .null
  | .bool b => .bool b
  | .int m n => .int m n
  | .float m x => .float m x
  | .text m s => .text m s
  | .bytes m bs => .bytes m bs
  | .dateTime m d => .dateTime m d
  | .locale m l => .locale m l
  | .tuple m items => .tuple m (ofKeys items)

/-- Names as values. -/
def ofKeys : List Key → List Value
  | [] => []
  | k :: rest => ofKey k :: ofKeys rest

end

/-! ## Reading values -/

mutual

/-- The name that a value is. Lists, maps, sets and parts are none, as they may change, nor is a sequence
that has one of them in it. -/
def key? : Value → Option Key
  | .null => some .null
  | .bool b => some (.bool b)
  | .int m n => some (.int m n)
  | .float m x => some (.float m x)
  | .text m s => some (.text m s)
  | .bytes m bs => some (.bytes m bs)
  | .dateTime m d => some (.dateTime m d)
  | .locale m l => some (.locale m l)
  | .tuple m items => (keys? items).map (.tuple m)
  | .list _ _ | .map _ _ | .set _ _ | .part _ _ => none

/-- The names that some values are. -/
def keys? : List Value → Option (List Key)
  | [] => some []
  | v :: rest =>
    match key? v, keys? rest with
    | some k, some ks => some (k :: ks)
    | _, _ => none

end

/-- Is the value a text? -/
def isText : Value → Bool
  | .text _ _ => true
  | _ => false

/-- The values that a value stands for when it is written to a header: the items of a list or tuple,
else the value itself. -/
def flatten : Value → List Value
  | .list _ items => items
  | .tuple _ items => items
  | v => [v]

/-- The items that a value consists of: those of a list or tuple, the bytes of a sequence of bytes, the
characters of a text, the names of a map or set. -/
def items? : Value → Option (List Value)
  | .list _ items => some items
  | .tuple _ items => some items
  | .bytes _ bs => some (bs.map fun b => .ofInt b.toNat)
  | .text _ s => some (s.toList.map fun c => .ofText (String.singleton c))
  | .map _ entries => some (entries.map fun e => ofKey e.1)
  | .set _ names => some (names.items.map ofKey)
  | _ => none

/-- Does the value count as true: is it neither zero nor empty? -/
def isTruthy : Value → Bool
  | .null => false
  | .bool b => b
  | .int _ n => n != 0
  | .float _ x => x.isNonzero
  | .text _ s => s != ""
  | .bytes _ bs => !bs.isEmpty
  | .list _ items => !items.isEmpty
  | .tuple _ items => !items.isEmpty
  | .map _ entries => !entries.isEmpty
  | .set _ names => !names.items.isEmpty
  | .dateTime _ _ | .locale _ _ | .part _ _ => true

/-- The value of a name in a list of fields. -/
def field? (name : String) (fields : List (String × Value)) : Option Value :=
  OrderedMap.find? name fields

end Value

end HttpExchange

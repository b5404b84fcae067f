import HttpExchange.Value

/-!
# Equality and order of values

Two values are equal if they have the same content, whether they are the same thing or not. Numbers are
equal as numbers and instants as instants, lists are equal item by item, sets are equal if they hold the
same names, and maps and parts are equal if they give every name equal values, in whatever order. A list never
equals a fixed sequence, and not-a-number equals nothing.

Values of one sort have an order: numbers by size, texts and sequences of bytes by their characters and
bytes, instants and times without an offset by time, lists and fixed sequences by the first items that
differ. Values of different sorts have none. Not-a-number is neither before nor after any number.
-/

namespace HttpExchange

/-! ## Equality -/

namespace Value

mutual

/-- Are two values equal? -/
def isEqual : Value → Value → Bool
  | .list _ items, .list _ others => areEqual items others
  | .tuple _ items, .tuple _ others => areEqual items others
  | .map _ entries, .map _ others => entries.length == others.length && entriesIn others entries
  | .set _ s, .set _ t => s.size == t.size && s.isSubset t
  | .part _ fields, .part _ others => fields.length == others.length && fieldsIn others fields
  | v, w =>
    match v.key?, w.key? with
    | some k, some l => k == l
    | _, _ => false

/-- Are the values of two lists equal one by one? -/
def areEqual : List Value → List Value → Bool
  | [], [] => true
  | v :: rest, w :: others => isEqual v w && areEqual rest others
  | _, _ => false

/-- Does a map have entries that equal the given ones? -/
def entriesIn (others : List (Key × Value)) : List (Key × Value) → Bool
  | [] => true
  | (k, v) :: rest =>
    (match OrderedMap.find? k others with
      | some w => isEqual v w
      | none => false) && entriesIn others rest

/-- Does a part have fields that equal the given ones? -/
def fieldsIn (others : List (String × Value)) : List (String × Value) → Bool
  | [] => true
  | (name, v) :: rest =>
    (match field? name others with
      | some w => isEqual v w
      | none => false) && fieldsIn others rest

end

end Value

/-! ## Order -/

/-- The size of a number, which may be infinite. -/
inductive Magnitude where
  /-- Below all numbers. -/
  | low
  /-- A quotient. -/
  | between (num : Int) (den : Nat)
  /-- Above all numbers. -/
  | high
  /-- Not a number. -/
  | unknown

namespace Magnitude

/-- Is a number smaller than another one? -/
def isLess : Magnitude → Magnitude → Bool
  | .unknown, _ => false
  | _, .unknown => false
  | .low, .low => false
  | .low, _ => true
  | _, .low => false
  | .high, _ => false
  | _, .high => true
  | .between m d, .between n e => m * e < n * d

/-- The size of a floating-point number. -/
def ofFloat : Binary64 → Magnitude
  | .nan => .unknown
  | .infinite negative => if negative then .low else .high
  | .finite negative mantissa exponent =>
    let (n, d) := Binary64.ratio mantissa exponent
    .between (if negative then -n else n) d

end Magnitude

namespace Value

/-- The size of a value that is a number. -/
def magnitude? : Value → Option Magnitude
  | .bool b => some (.between (if b then 1 else 0) 1)
  | .int _ n => some (.between n 1)
  | .float _ x => some (.ofFloat x)
  | _ => none

mutual

/-- Does a value come before another one? -/
def isLess? : Value → Value → Option Bool
  | .text _ s, .text _ t => some (s < t)
  | .bytes _ bs, .bytes _ cs => some (bs < cs)
  | .dateTime _ d, .dateTime _ e =>
    match KeyPart.ofDateTime d, KeyPart.ofDateTime e with
    | .instant m, .instant n | .localTime m, .localTime n => some (m < n)
    | _, _ => none
  | .list _ items, .list _ others => areLess? items others
  | .tuple _ items, .tuple _ others => areLess? items others
  | v, w =>
    match v.magnitude?, w.magnitude? with
    | some m, some n => some (m.isLess n)
    | _, _ => none

/-- Do values come before others, by the first of them that differ? -/
def areLess? : List Value → List Value → Option Bool
  | [], others => some !others.isEmpty
  | _ :: _, [] => some false
  | v :: rest, w :: others => if isEqual v w then areLess? rest others else isLess? v w

end

end Value

end HttpExchange

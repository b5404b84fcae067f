import HttpExchange.Value

/-!
# What values do by name

Lists, maps, sets, texts and locales are asked for things and changed by name. Each sort of value knows its
own names; it is asked for others in vain, whatever is given along with them.
-/

namespace HttpExchange.Value

/-- The names by which a value is asked for something. -/
def questions : Value → List String
  | .list _ _ => ["copy", "count", "index"]
  | .tuple _ _ | .text _ _ | .bytes _ _ => ["count", "index"]
  | .map _ _ => ["copy", "get", "items", "keys", "values"]
  | .set _ _ => ["copy", "difference", "intersection", "isdisjoint", "issubset", "issuperset",
    "symmetric_difference", "union"]
  | .locale _ _ => ["to_language_tag"]
  | _ => []

/-- The names by which a value is changed. -/
def changes : Value → List String
  | .list _ _ => ["append", "clear", "extend", "insert", "pop", "remove", "reverse", "sort"]
  | .map _ _ => ["clear", "pop", "popitem", "setdefault", "update"]
  | .set _ _ => ["add", "clear", "difference_update", "discard", "intersection_update", "pop", "remove",
    "symmetric_difference_update", "update"]
  | _ => []

/-- The names by which a value is asked or changed, apart from what all values do. -/
def vocabulary (v : Value) : List String := v.questions ++ v.changes

end HttpExchange.Value

/-!
# Searching in sorted items

Among sorted items those that pass a test stand together at one end. How many they are is found by
looking at places farther and farther away from that end, and then by halving what lies between the
last two. The test fails where an order is missing, and the search with it.
-/

namespace HttpExchange.Sorting

variable {α : Type}

/-- The end of sorted items from which they are given. -/
inductive Side where
  /-- The smallest item comes first. -/
  | front
  /-- The greatest item comes first. -/
  | back
  deriving DecidableEq, Repr

/-- The place in the middle between two others. Where there are two such places, it is that of the
greater item, from whichever side the items are given. -/
def Side.middle (side : Side) (first last : Nat) : Nat :=
  match side with
  | .front => first + (last - first) / 2
  | .back => first + (last - first - 1) / 2

/-- The middle between two places is not before the first one, and before the last one. -/
theorem Side.middle_mem (side : Side) {first last : Nat} (h : first < last) :
    first ≤ side.middle first last ∧ side.middle first last < last := by
  cases side <;> simp only [middle] <;> omega

/-- The number of items that pass a test, if it lies between two others. -/
def bisect? (side : Side) (passes : α → Option Bool) (items : List α) (first last : Nat) : Option Nat :=
  if _h : first < last then
    match items[side.middle first last]?.bind passes with
    | none => none
    | some true => bisect? side passes items (side.middle first last + 1) last
    | some false => bisect? side passes items first (side.middle first last)
  else some first
termination_by last - first
decreasing_by
  · have after := side.middle_mem _h
    omega
  · have after := side.middle_mem _h
    omega

/-- The farthest place that was found to pass a test, and a place behind it that does not or is the
end. The distance is doubled for each look; `passed` and `next` are the place that passed last and
the one that is looked at next. -/
def stretch? (passes : α → Option Bool) (items : List α) (passed next : Nat) : Option (Nat × Nat) :=
  if h : next < items.length then
    match passes items[next] with
    | none => none
    | some true => stretch? passes items next (2 * next + 1)
    | some false => some (passed, next)
  else some (passed, items.length)
termination_by items.length - next

/-- The number of items at the beginning that pass a test. -/
def leading? (side : Side) (passes : α → Option Bool) (items : List α) : Option Nat :=
  match items with
  | [] => some 0
  | x :: _ =>
    match passes x with
    | none => none
    | some false => some 0
    | some true => (stretch? passes items 0 1).bind fun bounds =>
      bisect? side passes items (bounds.1 + 1) bounds.2

end HttpExchange.Sorting

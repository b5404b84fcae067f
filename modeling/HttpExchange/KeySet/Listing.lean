import HttpExchange.KeySet
import HttpExchange.Value.Written

/-!
# Sets in order

A set is shown with its names in order, if they have one. Truth values and integers are ordered by size,
texts by their characters, and sequences by the first items that are not written alike. Names of other
sorts have no order, and a set with two or more names cannot be shown where one of them has none.

## Main statements

* `perm_listed`: a set is shown with all its names and no others.
-/

namespace HttpExchange

namespace Key

/-- The whole number that a name is. -/
def whole? : Key → Option Int
  | .bool b => some (if b then 1 else 0)
  | .int _ n => some n
  | _ => none

/-- Are two names written alike? A truth value is written like the number for which it counts. -/
def isAlike (a b : Key) : Bool :=
  match a.whole?, b.whole? with
  | some m, some n => m == n
  | _, _ => a.literal == b.literal

mutual

/-- Is a name shown before another one? -/
def precedes? : Key → Key → Option Bool
  | .text _ s, .text _ t => some (s < t)
  | .tuple _ items, .tuple _ others => precede? items others
  | a, b =>
    match a.whole?, b.whole? with
    | some m, some n => some (m < n)
    | _, _ => none

/-- Are names shown before others, by the first of them that are not written alike? -/
def precede? : List Key → List Key → Option Bool
  | [], others => some !others.isEmpty
  | _ :: _, [] => some false
  | a :: rest, b :: others => if a.isAlike b then precede? rest others else precedes? a b

end

end Key

namespace KeySet

/-- The names of a set in order, if any two of them have one. -/
def listed? (s : KeySet) : Option (List Key) :=
  if s.items.Pairwise fun a b => (a.precedes? b).isSome then
    some (s.items.mergeSort fun a b => b.precedes? a != some true)
  else none

/-- A set is shown with all its names and no others. -/
theorem perm_listed {s : KeySet} {ks : List Key} (h : s.listed? = some ks) : ks.Perm s.items := by
  unfold listed? at h
  split at h
  · cases h
    exact List.mergeSort_perm _ _
  · cases h

end KeySet

end HttpExchange

import HttpExchange.Sorting.Merge

/-!
# Sorting

Items are sorted by an order that may be missing between some of them. The runs of the items are
found one after another. When a run is found, those before it are merged whose boundary lies deeper
than the new one, so that the merges come near to a balanced tree over the items. At the end all
runs are merged, the last ones first.

Items that are not different in size keep their places among each other. Where an order is missing
that is needed, sorting stops, and the items are left as far as they were sorted.

## Main statements

* `perm_sort`: sorting loses no item and adds none, also where it stops.
-/

namespace HttpExchange.Sorting

variable {α : Type}

/-- The number of items that a run should have, so that `n` items are cut into runs of nearly the
same length, nearly a power of two in number. `odd` tells whether an item was left over when the
number was halved before. -/
def leastRun (n : Nat) (odd : Bool) : Nat :=
  if 64 ≤ n then leastRun (n / 2) (odd || n % 2 == 1) else n + (if odd then 1 else 0)
termination_by n

/-- The depth of the boundary between two runs among `n` items: the first binary place in which the
middles of the runs differ, as fractions of the whole. The middles are `a` and `b` halves of an item
from the beginning. The distance doubles with each place, so `fuel` bounds their number. -/
def boundaryDepth (n : Nat) : Nat → Nat → Nat → Nat
  | 0, _, _ => 0
  | fuel + 1, a, b => if a / n = b / n then boundaryDepth n fuel (2 * a) (2 * b) + 1 else 1

/-- A run that waits to be merged. -/
structure Waiting (α : Type) where
  /-- Its items. -/
  items : List α
  /-- The number of items before it. -/
  start : Nat
  /-- The depth of the boundary behind it. -/
  depth : Nat

/-- The items of runs, of which the last one comes first. -/
def itemsOf : List (Waiting α) → List α
  | [] => []
  | w :: rest => itemsOf rest ++ w.items

/-- The runs that were found so far. -/
structure Progress (α : Type) where
  /-- The runs before the last one, the latest first. -/
  waiting : List (Waiting α)
  /-- The items of the last run. -/
  last : List α
  /-- The number of items before the last run. -/
  start : Nat
  /-- The patience of merging. -/
  patience : Nat

namespace Progress

/-- The items of all runs. -/
def items (p : Progress α) : List α := itemsOf p.waiting ++ p.last

/-- Merges the last run with those before it whose boundary lies deeper than the given depth. Where
an order is missing, gives the items as they are left. -/
def collapse (less : α → α → Option Bool) (depth : Nat) :
    List (Waiting α) → List α → Nat → Nat → Except (List α) (Progress α)
  | [], last, start, patience => .ok ⟨[], last, start, patience⟩
  | w :: rest, last, start, patience =>
    if depth < w.depth then
      match mergeRuns less patience w.items last with
      | (⟨merged, true⟩, patience) => collapse less depth rest merged w.start patience
      | (⟨merged, false⟩, _) => .error (itemsOf rest ++ merged)
    else .ok ⟨w :: rest, last, start, patience⟩

/-- Merges all runs. The last run waits where it is longer than the one before the one before it. -/
def finish (less : α → α → Option Bool) (patience : Nat) : List (Waiting α) → List α → Attempt α
  | [], last => ⟨last, true⟩
  | [w], last => (mergeRuns less patience w.items last).1
  | w :: v :: rest, last =>
    if v.items.length < last.length then
      match mergeRuns less patience v.items w.items with
      | (⟨merged, true⟩, patience) => finish less patience (⟨merged, v.start, w.depth⟩ :: rest) last
      | (⟨merged, false⟩, _) => ⟨itemsOf rest ++ (merged ++ last), false⟩
    else
      match mergeRuns less patience w.items last with
      | (⟨merged, true⟩, patience) => finish less patience (v :: rest) merged
      | (⟨merged, false⟩, _) => ⟨itemsOf (v :: rest) ++ merged, false⟩
termination_by waiting => waiting.length

end Progress

/-- Goes on to sort `total` items, of which `rest` was not looked at yet. Each run has an item, so
`fuel` bounds their number. -/
def sortRest (less : α → α → Option Bool) (total : Nat) : Nat → Progress α → List α → Attempt α
  | 0, p, rest => ⟨p.items ++ rest, true⟩
  | _ + 1, p, [] => Progress.finish less p.patience p.waiting p.last
  | fuel + 1, p, v :: behind =>
    let found := firstRun less (leastRun total false) (v :: behind)
    if !found.finished then ⟨p.items ++ (found.run ++ found.rest), false⟩
    else
      let middle := 2 * p.start + p.last.length
      let depth := boundaryDepth total total middle (middle + p.last.length + found.run.length)
      match Progress.collapse less depth p.waiting p.last p.start p.patience with
      | .error left => ⟨left ++ (found.run ++ found.rest), false⟩
      | .ok p =>
        sortRest less total fuel
          ⟨⟨p.last, p.start, depth⟩ :: p.waiting, found.run, p.start + p.last.length, p.patience⟩ found.rest

/-- Sorts items from small to large. -/
def sort (less : α → α → Option Bool) (items : List α) : Attempt α :=
  let found := firstRun less (leastRun items.length false) items
  if !found.finished then ⟨found.run ++ found.rest, false⟩
  else sortRest less items.length (items.length + 1) ⟨[], found.run, 0, Merging.longLeap⟩ found.rest

/-! ## Keeping all items -/

namespace Progress

/-- What merging gives has all of the given items. -/
def Keeps (items : List α) : Except (List α) (Progress α) → Prop
  | .error left => left.Perm items
  | .ok p => p.items.Perm items

/-- Merging runs with those before them loses no item and adds none. -/
theorem keeps_collapse (less : α → α → Option Bool) (depth : Nat) (waiting : List (Waiting α))
    (last : List α) (start patience : Nat) :
    Keeps (itemsOf waiting ++ last) (collapse less depth waiting last start patience) := by
  induction waiting generalizing last start patience with
  | nil => exact .refl _
  | cons w rest ih =>
    have all : (itemsOf rest ++ (mergeRuns less patience w.items last).1.items).Perm
        (itemsOf (w :: rest) ++ last) := by
      simpa [itemsOf] using (perm_mergeRuns less patience w.items last).append_left (itemsOf rest)
    rw [collapse]
    split
    · split
      · next merged patience h =>
        rw [h] at all
        have kept := ih merged w.start patience
        cases hc : collapse less depth rest merged w.start patience with
        | error left => rw [hc] at kept; exact List.Perm.trans kept all
        | ok p => rw [hc] at kept; exact List.Perm.trans kept all
      · next h => rw [h] at all; exact all
    · exact .refl _

/-- Merging all runs loses no item and adds none. -/
theorem perm_finish (less : α → α → Option Bool) (patience : Nat) (waiting : List (Waiting α))
    (last : List α) : (finish less patience waiting last).items.Perm (itemsOf waiting ++ last) := by
  fun_induction finish less patience waiting last with
  | case1 => exact .refl _
  | case2 patience w last => exact perm_mergeRuns ..
  | case3 patience w v rest last _ merged left h ih =>
    have kept := perm_mergeRuns less patience v.items w.items
    rw [h] at kept
    refine ih.trans ?_
    simpa [itemsOf] using (kept.append_right last).append_left (itemsOf rest)
  | case4 patience w v rest last _ merged left h =>
    have kept := perm_mergeRuns less patience v.items w.items
    rw [h] at kept
    simpa [itemsOf] using (kept.append_right last).append_left (itemsOf rest)
  | case5 patience w v rest last _ merged left h ih =>
    have kept := perm_mergeRuns less patience w.items last
    rw [h] at kept
    refine ih.trans ?_
    simpa [itemsOf] using kept.append_left (itemsOf (v :: rest))
  | case6 patience w v rest last _ merged left h =>
    have kept := perm_mergeRuns less patience w.items last
    rw [h] at kept
    simpa [itemsOf] using kept.append_left (itemsOf (v :: rest))

end Progress

/-- Going on to sort loses no item and adds none. -/
theorem perm_sortRest (less : α → α → Option Bool) (total fuel : Nat) (p : Progress α) (rest : List α) :
    (sortRest less total fuel p rest).items.Perm (p.items ++ rest) := by
  induction fuel generalizing p rest with
  | zero => exact .refl _
  | succ fuel ih =>
    cases rest with
    | nil => simpa [sortRest, Progress.items] using Progress.perm_finish less p.patience p.waiting p.last
    | cons v behind =>
      have found := perm_firstRun less (leastRun total false) (v :: behind)
      simp only [sortRest]
      split
      · exact found.append_left _
      · split
        · next left h =>
          have kept : Progress.Keeps p.items (.error left) := h ▸ Progress.keeps_collapse ..
          exact List.Perm.append kept found
        · next q h =>
          have kept : Progress.Keeps p.items (.ok q) := h ▸ Progress.keeps_collapse ..
          refine (ih _ _).trans ?_
          simpa [Progress.items, itemsOf] using List.Perm.append kept found

/-- Sorting loses no item and adds none, also where it stops. -/
theorem perm_sort (less : α → α → Option Bool) (items : List α) : (sort less items).items.Perm items := by
  have found := perm_firstRun less (leastRun items.length false) items
  unfold sort
  simp only
  split
  · exact found
  · refine (perm_sortRest ..).trans ?_
    simpa [Progress.items, itemsOf] using found

end HttpExchange.Sorting

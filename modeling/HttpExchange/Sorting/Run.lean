import HttpExchange.Sorting.Search

/-!
# Runs

A run is a stretch of items that are in order. The longest one at the beginning of some items,
falling or not falling, is found by comparing neighbours; a falling one is turned around. A run that
is too short takes in the items behind it, one after another.

## Main statements

* `perm_insertAll`, `perm_firstRun`: no item is lost and none is added.
-/

namespace HttpExchange.Sorting

variable {α : Type}

/-- What an attempt to sort leaves. -/
structure Attempt (α : Type) where
  /-- The items. -/
  items : List α
  /-- Were all orders that were needed there? Else the items are in order as far as they were
  sorted. -/
  finished : Bool

/-- How many items go on falling, or not falling, from a last one. -/
def runLength? (less : α → α → Option Bool) (falling : Bool) (last : α) : List α → Option Nat
  | [] => some 0
  | v :: rest =>
    match less v last with
    | none => none
    | some b => if b = falling then (runLength? less falling v rest).map (· + 1) else some 0

/-- Puts items into sorted ones, one after another, each behind all that are not greater, until one
of them has no order with another. -/
def insertAll (less : α → α → Option Bool) (sorted : List α) : List α → Attempt α
  | [] => ⟨sorted, true⟩
  | v :: rest =>
    match bisect? .front (fun x => (less v x).map not) sorted 0 sorted.length with
    | none => ⟨sorted ++ v :: rest, false⟩
    | some i => insertAll less (sorted.take i ++ v :: sorted.drop i) rest

/-- The first run of some items. -/
structure FirstRun (α : Type) where
  /-- The run. -/
  run : List α
  /-- The items behind it. -/
  rest : List α
  /-- Were all orders that were needed there? -/
  finished : Bool

/-- The first run of some items, with at least the given number of items if there are so many. -/
def firstRun (less : α → α → Option Bool) (least : Nat) (items : List α) : FirstRun α :=
  match items with
  | v :: w :: rest =>
    match less w v with
    | none => ⟨[], items, false⟩
    | some falling =>
      match runLength? less falling w rest with
      | none => ⟨[], items, false⟩
      | some n =>
        let run := items.take (n + 2)
        let behind := items.drop (n + 2)
        let missing := least - (n + 2)
        let filled := insertAll less (if falling then run.reverse else run) (behind.take missing)
        ⟨filled.items, behind.drop missing, filled.finished⟩
  | _ => ⟨items, [], true⟩

/-- Putting items into sorted ones loses none and adds none. -/
theorem perm_insertAll (less : α → α → Option Bool) (sorted rest : List α) :
    (insertAll less sorted rest).items.Perm (sorted ++ rest) := by
  induction rest generalizing sorted with
  | nil => simp [insertAll]
  | cons v rest ih =>
    rw [insertAll]
    split
    · exact .refl _
    · next i _ =>
      have front : (sorted.take i ++ v :: sorted.drop i).Perm (v :: sorted) := by
        have moved : (sorted.take i ++ v :: sorted.drop i).Perm (v :: (sorted.take i ++ sorted.drop i)) :=
          List.perm_middle
        rwa [List.take_append_drop] at moved
      exact (ih _).trans ((front.append_right rest).trans List.perm_middle.symm)

/-- The first run and what is behind it are the items. -/
theorem perm_firstRun (less : α → α → Option Bool) (least : Nat) (items : List α) :
    ((firstRun less least items).run ++ (firstRun less least items).rest).Perm items := by
  unfold firstRun
  split
  · next v w rest =>
    split
    · exact .refl _
    · next falling _ =>
      split
      · exact .refl _
      · next n _ =>
        have turned : (if falling then ((v :: w :: rest).take (n + 2)).reverse
            else (v :: w :: rest).take (n + 2)).Perm ((v :: w :: rest).take (n + 2)) := by
          split
          · exact List.reverse_perm _
          · exact .refl _
        refine ((perm_insertAll less _ _).append_right _).trans ?_
        rw [List.append_assoc, List.take_append_drop]
        exact (turned.append_right _).trans (.of_eq (List.take_append_drop _ _))
  · simp

end HttpExchange.Sorting

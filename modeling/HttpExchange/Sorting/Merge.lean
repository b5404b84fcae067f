import HttpExchange.Sorting.Run

/-!
# Merging runs

Two neighbouring runs are merged from one end, by taking the item that belongs there from one run or
the other. When one run has given many items in a row, *leaps* begin: it is searched how many more
items a run gives in a row, and these are taken at once. As soon as leaps are short again, items are
taken one by one. How many items in a row it takes depends on how well leaps did before.

The shorter run lies aside meanwhile and the longer one stays in its place. Where an order is
missing, what was not taken yet of the run aside goes back to the place between the merged items and
the other run.

## Main statements

* `perm_mergeRuns`: no item is lost and none is added.
-/

namespace HttpExchange.Sorting

variable {α : Type}

/-- Two runs that are being merged from one end. The lower run is the one that came first; its items
stay before those of the upper run that are not smaller. -/
structure Merging (α : Type) where
  /-- What was taken, the last item first. -/
  taken : List α
  /-- What is left of the lower run. -/
  lower : List α
  /-- What is left of the upper run. -/
  upper : List α

namespace Merging

/-- All items. -/
def items (m : Merging α) : List α := m.taken ++ (m.lower ++ m.upper)

/-- Takes items from the lower run. -/
def takeLower (n : Nat) (m : Merging α) : Merging α :=
  { m with taken := (m.lower.take n).reverse ++ m.taken, lower := m.lower.drop n }

/-- Takes items from the upper run. -/
def takeUpper (n : Nat) (m : Merging α) : Merging α :=
  { m with taken := (m.upper.take n).reverse ++ m.taken, upper := m.upper.drop n }

/-- What is left of the run that lies aside, which is the lower one if merging begins at the front.
-/
def aside (side : Side) (m : Merging α) : List α :=
  match side with
  | .front => m.lower
  | .back => m.upper

/-- What is left of the run that stays in its place. -/
def placed (side : Side) (m : Merging α) : List α :=
  match side with
  | .front => m.upper
  | .back => m.lower

/-- The items as they are when merging stops. -/
def stopped (side : Side) (m : Merging α) : List α := m.taken.reverse ++ (m.aside side ++ m.placed side)

/-- Goes on unless a run has come to its end. A last item aside belongs behind all others. -/
def check (side : Side) (m : Merging α) : Except (Attempt α) (Merging α) :=
  match m.aside side, m.placed side with
  | [x], placed => .error ⟨m.taken.reverse ++ (placed ++ [x]), true⟩
  | [], _ => .error ⟨m.stopped side, true⟩
  | _, [] => .error ⟨m.stopped side, true⟩
  | _, _ => .ok m

/-- Is an item of the upper run taken before one of the lower run? From the front it is if it is
smaller, from the back if it is not. -/
def takesUpper (less : α → α → Option Bool) (side : Side) (l u : α) : Option Bool :=
  match side with
  | .front => less u l
  | .back => (less u l).map not

/-- Takes so many items of the lower run as come before the first one of the upper run, and tells
how many. -/
def leapLower (less : α → α → Option Bool) (side : Side) (m : Merging α) :
    Except (Attempt α) (Nat × Merging α) :=
  match m.upper with
  | [] => .error ⟨m.stopped side, true⟩
  | u :: _ =>
    match leading? side (fun l => (takesUpper less side l u).map not) m.lower with
    | none => .error ⟨m.stopped side, false⟩
    | some n => .ok (n, m.takeLower n)

/-- Takes so many items of the upper run as come before the first one of the lower run, and tells
how many. -/
def leapUpper (less : α → α → Option Bool) (side : Side) (m : Merging α) :
    Except (Attempt α) (Nat × Merging α) :=
  match m.lower with
  | [] => .error ⟨m.stopped side, true⟩
  | l :: _ =>
    match leading? side (fun u => takesUpper less side l u) m.upper with
    | none => .error ⟨m.stopped side, false⟩
    | some n => .ok (n, m.takeUpper n)

/-- The length from which on a leap is a long one. -/
def longLeap : Nat := 7

/-- Takes items by a leap in each run, and tells whether one of them was long. The item that ends a
leap is taken along. -/
def leap (less : α → α → Option Bool) (side : Side) (m : Merging α) :
    Except (Attempt α) (Bool × Merging α) := do
  let (i, m) ← m.leapLower less side
  let m ← m.check side
  let m ← (m.takeUpper 1).check side
  let (j, m) ← m.leapUpper less side
  let m ← m.check side
  let m ← (m.takeLower 1).check side
  return (longLeap ≤ i || longLeap ≤ j, m)

/-- Takes one item. Tells whether it is from the upper run. -/
def takeOne (less : α → α → Option Bool) (side : Side) (m : Merging α) :
    Except (Attempt α) (Bool × Merging α) :=
  match m.lower, m.upper with
  | l :: _, u :: _ =>
    match takesUpper less side l u with
    | none => .error ⟨m.stopped side, false⟩
    | some true => ((m.takeUpper 1).check side).map (true, ·)
    | some false => ((m.takeLower 1).check side).map (false, ·)
  | _, _ => .error ⟨m.stopped side, true⟩

/-- How items are taken. -/
inductive Pace where
  /-- One by one; so many were taken in a row, from the upper run or else from the lower one. -/
  | single (fromUpper : Bool) (count : Nat)
  /-- By leaps. -/
  | leaping

/-- Merges until a run has come to its end. It takes `patience` items in a row until leaps begin;
every leap makes the next ones begin earlier, and their end later. Each step takes an item, so
`fuel` bounds their number. Gives also the patience that is left. -/
def run (less : α → α → Option Bool) (side : Side) :
    Nat → Pace → Nat → Merging α → Attempt α × Nat
  | 0, _, patience, m => (⟨m.stopped side, true⟩, patience)
  | fuel + 1, .single fromUpper count, patience, m =>
    match m.takeOne less side with
    | .error attempt => (attempt, patience)
    | .ok (upper, m) =>
      let count := if upper = fromUpper then count + 1 else 1
      run less side fuel (if patience ≤ count then .leaping else .single upper count) patience m
  | fuel + 1, .leaping, patience, m =>
    match m.leap less side with
    | .error attempt => (attempt, patience)
    | .ok (true, m) => run less side fuel .leaping (max 1 (patience - 1)) m
    | .ok (false, m) => run less side fuel (.single false 0) (patience + 1) m

/-- Takes the first item of the run that stays in its place. -/
def takePlaced (side : Side) (m : Merging α) : Merging α :=
  match side with
  | .front => m.takeUpper 1
  | .back => m.takeLower 1

/-- Merges two runs that are given from one end. The first item is known to be that of the run that
stays in its place. -/
def start (less : α → α → Option Bool) (side : Side) (patience : Nat) (m : Merging α) :
    Attempt α × Nat :=
  match (m.takePlaced side).check side with
  | .error attempt => (attempt, patience)
  | .ok m => m.run less side (m.lower.length + m.upper.length + 1) (.single false 0) patience

end Merging

/-- Merges two neighbouring runs, of which the shorter one lies aside. -/
def mergeAside (less : α → α → Option Bool) (patience : Nat) (lower upper : List α) : Attempt α × Nat :=
  if lower.length ≤ upper.length then Merging.start less .front patience ⟨[], lower, upper⟩
  else
    let (attempt, patience) := Merging.start less .back patience ⟨[], lower.reverse, upper.reverse⟩
    (⟨attempt.items.reverse, attempt.finished⟩, patience)

/-- The number of items at the beginning of the lower run that are in their place, and the number of
items at the beginning of the upper run that are not. -/
def displaced? (less : α → α → Option Bool) (lower upper : List α) : Option (Nat × Nat) :=
  match upper with
  | [] => some (lower.length, 0)
  | u :: _ =>
    match leading? .front (fun x => (less u x).map not) lower with
    | none => none
    | some i =>
      match (lower.drop i).getLast? with
      | none => some (i, 0)
      | some l =>
        (leading? .back (fun x => (less x l).map not) upper.reverse).map fun n => (i, upper.length - n)

/-- Merges two neighbouring runs. Items that are in their place already stay there. -/
def mergeRuns (less : α → α → Option Bool) (patience : Nat) (lower upper : List α) : Attempt α × Nat :=
  match displaced? less lower upper with
  | none => (⟨lower ++ upper, false⟩, patience)
  | some (_, 0) => (⟨lower ++ upper, true⟩, patience)
  | some (i, j) =>
    let (attempt, patience) := mergeAside less patience (lower.drop i) (upper.take j)
    (⟨lower.take i ++ (attempt.items ++ upper.drop j), attempt.finished⟩, patience)

/-! ## Keeping all items -/

namespace Merging

/-- Taking items from the lower run keeps all items. -/
theorem perm_takeLower (n : Nat) (m : Merging α) : (m.takeLower n).items.Perm m.items := by
  have front : ((m.lower.take n).reverse ++ m.taken).Perm (m.taken ++ m.lower.take n) :=
    List.perm_append_comm.trans ((List.reverse_perm _).append_left _)
  refine (front.append_right _).trans (.of_eq ?_)
  change m.taken ++ m.lower.take n ++ (m.lower.drop n ++ m.upper) = m.taken ++ (m.lower ++ m.upper)
  rw [List.append_assoc, ← List.append_assoc (m.lower.take n), List.take_append_drop]

/-- Taking items from the upper run keeps all items. -/
theorem perm_takeUpper (n : Nat) (m : Merging α) : (m.takeUpper n).items.Perm m.items := by
  have front : ((m.upper.take n).reverse ++ m.taken).Perm (m.taken ++ m.upper.take n) :=
    List.perm_append_comm.trans ((List.reverse_perm _).append_left _)
  refine (front.append_right _).trans ?_
  have back : (m.upper.take n ++ (m.lower ++ m.upper.drop n)).Perm (m.lower ++ m.upper) := by
    rw [← List.append_assoc]
    refine (List.perm_append_comm.append_right _).trans (.of_eq ?_)
    simp
  simpa [items, takeUpper] using back.append_left m.taken

/-- Stopping keeps all items. -/
theorem perm_stopped (side : Side) (m : Merging α) : (m.stopped side).Perm m.items := by
  cases side
  · exact (List.reverse_perm _).append_right _
  · exact (List.reverse_perm _).append List.perm_append_comm

/-- What a step gives keeps all items of what it began with. -/
def Keeps {β : Type} (m : Merging α) (view : β → Merging α) : Except (Attempt α) β → Prop
  | .error attempt => attempt.items.Perm m.items
  | .ok b => (view b).items.Perm m.items

/-- Steps that keep all items do so one after another. -/
theorem Keeps.bind {β γ : Type} {m : Merging α} {view : β → Merging α} {view' : γ → Merging α}
    {x : Except (Attempt α) β} {f : β → Except (Attempt α) γ} (hx : Keeps m view x)
    (hf : ∀ b, Keeps (view b) view' (f b)) : Keeps m view' (x >>= f) := by
  cases x with
  | error attempt => exact hx
  | ok b =>
    have h := hf b
    change Keeps m view' (f b)
    cases hb : f b with
    | error attempt => rw [hb] at h; exact h.trans hx
    | ok c => rw [hb] at h; exact h.trans hx

/-- Keeping all items of a merge keeps those of another one with the same items. -/
theorem Keeps.trans {β : Type} {m m' : Merging α} {view : β → Merging α} {x : Except (Attempt α) β}
    (hx : Keeps m view x) (h : m.items.Perm m'.items) : Keeps m' view x := by
  cases x with
  | error attempt => exact List.Perm.trans hx h
  | ok b => exact List.Perm.trans hx h

/-- Looking whether a run has come to its end keeps all items. -/
theorem keeps_check (side : Side) (m : Merging α) : Keeps m id (m.check side) := by
  unfold check
  split
  · next x ha =>
    have back : (m.placed side ++ [x]).Perm (m.aside side ++ m.placed side) := by
      rw [ha]
      exact List.perm_append_comm
    exact (back.append_left _).trans (m.perm_stopped side)
  · exact m.perm_stopped side
  · exact m.perm_stopped side
  · exact .refl _

/-- A leap in the lower run keeps all items. -/
theorem keeps_leapLower (less : α → α → Option Bool) (side : Side) (m : Merging α) :
    Keeps m Prod.snd (m.leapLower less side) := by
  unfold leapLower
  split
  · exact m.perm_stopped side
  · split
    · exact m.perm_stopped side
    · exact m.perm_takeLower _

/-- A leap in the upper run keeps all items. -/
theorem keeps_leapUpper (less : α → α → Option Bool) (side : Side) (m : Merging α) :
    Keeps m Prod.snd (m.leapUpper less side) := by
  unfold leapUpper
  split
  · exact m.perm_stopped side
  · split
    · exact m.perm_stopped side
    · exact m.perm_takeUpper _

/-- Leaps keep all items. -/
theorem keeps_leap (less : α → α → Option Bool) (side : Side) (m : Merging α) :
    Keeps m Prod.snd (m.leap less side) := by
  unfold leap
  refine (m.keeps_leapLower less side).bind fun a => ?_
  refine (keeps_check side a.2).bind fun b => ?_
  refine ((keeps_check side _).trans (perm_takeUpper 1 b)).bind fun c => ?_
  refine (c.keeps_leapUpper less side).bind fun d => ?_
  refine (keeps_check side d.2).bind fun e => ?_
  exact ((keeps_check side _).trans (perm_takeLower 1 e)).bind fun _ => List.Perm.refl _

/-- Taking one item keeps all items. -/
theorem keeps_takeOne (less : α → α → Option Bool) (side : Side) (m : Merging α) :
    Keeps m Prod.snd (m.takeOne less side) := by
  unfold takeOne
  split
  · split
    · exact m.perm_stopped side
    · exact ((keeps_check side _).trans (perm_takeUpper 1 m)).bind fun _ => List.Perm.refl _
    · exact ((keeps_check side _).trans (perm_takeLower 1 m)).bind fun _ => List.Perm.refl _
  · exact m.perm_stopped side

/-- Merging from one end keeps all items. -/
theorem perm_run (less : α → α → Option Bool) (side : Side) (fuel : Nat) (pace : Pace) (patience : Nat)
    (m : Merging α) : (m.run less side fuel pace patience).1.items.Perm m.items := by
  induction fuel generalizing pace patience m with
  | zero => exact m.perm_stopped side
  | succ fuel ih =>
    cases pace with
    | single fromUpper count =>
      have kept := m.keeps_takeOne less side
      rw [run]
      split
      · next h => rw [h] at kept; exact kept
      · next h => rw [h] at kept; exact (ih _ _ _).trans kept
    | leaping =>
      have kept := m.keeps_leap less side
      rw [run]
      split
      · next h => rw [h] at kept; exact kept
      · next h => rw [h] at kept; exact (ih _ _ _).trans kept
      · next h => rw [h] at kept; exact (ih _ _ _).trans kept

/-- Taking the first item of the run in its place keeps all items. -/
theorem perm_takePlaced (side : Side) (m : Merging α) : (m.takePlaced side).items.Perm m.items := by
  cases side
  · exact m.perm_takeUpper 1
  · exact m.perm_takeLower 1

/-- Merging two runs that are given from one end keeps all items. -/
theorem perm_start (less : α → α → Option Bool) (side : Side) (patience : Nat) (m : Merging α) :
    (m.start less side patience).1.items.Perm m.items := by
  have kept : Keeps m id ((m.takePlaced side).check side) :=
    (keeps_check side _).trans (m.perm_takePlaced side)
  unfold start
  split
  · next h => rw [h] at kept; exact kept
  · next h => rw [h] at kept; exact (perm_run ..).trans kept

end Merging

/-- Merging two runs, of which one lies aside, loses no item and adds none. -/
theorem perm_mergeAside (less : α → α → Option Bool) (patience : Nat) (lower upper : List α) :
    (mergeAside less patience lower upper).1.items.Perm (lower ++ upper) := by
  unfold mergeAside
  split
  · exact Merging.perm_start ..
  · refine (List.reverse_perm _).trans ((Merging.perm_start ..).trans ?_)
    exact (List.reverse_perm _).append (List.reverse_perm _)

/-- Merging two runs loses no item and adds none. -/
theorem perm_mergeRuns (less : α → α → Option Bool) (patience : Nat) (lower upper : List α) :
    (mergeRuns less patience lower upper).1.items.Perm (lower ++ upper) := by
  unfold mergeRuns
  split
  · exact .refl _
  · exact .refl _
  · next i j _ _ =>
    refine (((perm_mergeAside ..).append_right _).append_left _).trans (.of_eq ?_)
    rw [List.append_assoc, List.take_append_drop, ← List.append_assoc, List.take_append_drop]

end HttpExchange.Sorting

import HttpExchange.Key

/-!
# Sets of names

A set holds each of its names once and keeps them in the order in which they came. Which of several equal
names is held makes no difference: the set holds the one that came first.

## Main statements

* `contains_insert`, `contains_erase`: what a set holds after it was changed.
-/

namespace HttpExchange

/-- A set of names. -/
structure KeySet where
  /-- The names, the one that came first in front. -/
  items : List Key
  /-- No name occurs twice. -/
  distinct : items.Pairwise fun a b => (a == b) = false
  deriving Repr

namespace KeySet

/-- The set without names. -/
def empty : KeySet := ⟨[], .nil⟩

instance : Inhabited KeySet := ⟨empty⟩

/-- Does the set hold a name? -/
def contains (s : KeySet) (k : Key) : Bool := s.items.any (· == k)

/-- The number of names. -/
def size (s : KeySet) : Nat := s.items.length

/-- The names of a set for which `p` holds. -/
def filter (p : Key → Bool) (s : KeySet) : KeySet := ⟨s.items.filter p, s.distinct.filter p⟩

/-- A name that is not held differs from all that are. -/
theorem distinct_append {s : KeySet} {k : Key} (h : ¬ s.contains k) :
    (s.items ++ [k]).Pairwise fun a b => (a == b) = false := by
  rw [List.pairwise_append]
  refine ⟨s.distinct, List.pairwise_singleton _ _, fun a ha b hb => ?_⟩
  rw [List.mem_singleton.1 hb]
  exact Bool.eq_false_iff.2 fun hk => h (List.any_eq_true.2 ⟨a, ha, hk⟩)

/-- The set with another name. -/
def insert (s : KeySet) (k : Key) : KeySet :=
  if h : s.contains k then s else ⟨s.items ++ [k], distinct_append h⟩

/-- The set without a name. -/
def erase (s : KeySet) (k : Key) : KeySet := s.filter fun j => !(j == k)

/-- The set of some names. -/
def ofList (ks : List Key) : KeySet := ks.foldl insert empty

/-! ## Two sets -/

/-- The names that one of two sets holds and the other one does not. -/
def symmDiff (s t : KeySet) : KeySet :=
  (t.items.filter fun k => !s.contains k).foldl insert (s.filter fun k => !t.contains k)

/-- Does another set hold all names of a set? -/
def isSubset (s t : KeySet) : Bool := s.items.all t.contains

/-! ## What a set holds -/

/-- The empty set holds nothing. -/
@[simp] theorem contains_empty (k : Key) : empty.contains k = false := rfl

/-- A set holds a name if one of its own is the same. -/
theorem contains_iff {s : KeySet} {k : Key} : s.contains k = true ↔ ∃ j ∈ s.items, (j == k) = true :=
  List.any_eq_true

/-- Names that are the same are held by the same sets. -/
theorem contains_congr (s : KeySet) {j k : Key} (h : (j == k) = true) : s.contains j = s.contains k := by
  rw [Bool.eq_iff_iff, contains_iff, contains_iff]
  exact ⟨fun ⟨i, hi, hj⟩ => ⟨i, hi, BEq.trans hj h⟩, fun ⟨i, hi, hk⟩ => ⟨i, hi, BEq.trans hk (BEq.symm h)⟩⟩

/-- An inserted name is held, and everything else is held as before. -/
@[simp] theorem contains_insert (s : KeySet) (j k : Key) :
    (s.insert j).contains k = (j == k || s.contains k) := by
  rw [insert]
  split
  · next h =>
    by_cases hj : (j == k) = true
    · rw [hj, Bool.true_or, ← contains_congr s hj, h]
    · simp [hj]
  · simp [contains, Bool.or_comm]

/-- An erased name is not held, and everything else is held as before. -/
@[simp] theorem contains_erase (s : KeySet) (j k : Key) :
    (s.erase j).contains k = (!(j == k) && s.contains k) := by
  rw [Bool.eq_iff_iff, contains_iff, Bool.and_eq_true, contains_iff]
  simp only [erase, filter, List.mem_filter, Bool.not_eq_true']
  constructor
  · rintro ⟨i, ⟨hi, hj⟩, hk⟩
    refine ⟨Bool.eq_false_iff.2 fun h => ?_, i, hi, hk⟩
    exact Bool.eq_false_iff.1 hj (BEq.trans hk (BEq.symm h))
  · rintro ⟨hj, i, hi, hk⟩
    refine ⟨i, ⟨hi, Bool.eq_false_iff.2 fun h => ?_⟩, hk⟩
    exact Bool.eq_false_iff.1 hj (BEq.trans (BEq.symm h) hk)

end KeySet

end HttpExchange

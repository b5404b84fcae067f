import HttpExchange.Proofs.OrderedMap
import Mathlib.Data.List.Perm.Basic

/-!
# Entries in groups

Entries that are kept under their keys, each behind those that are there already, form groups. The groups can be
told from the entries alone: the first entry opens a group, which all later ones of the same key join in their
order, and the entries that are left are grouped likewise. A key that is not even the same as itself makes a group
of its own each time.

## Main statements

* `OrderedMap.groups_concat`: one more entry goes behind those of its key.
* `OrderedMap.perm_groups`: no entry is lost or repeated.
* `OrderedMap.head?_groups`: the first of a group is the first entry with its key.
-/

namespace HttpExchange.OrderedMap

variable {κ α : Type} [BEq κ]

/-- Entries in groups: that of the first entry and all later ones of the same key, then those of the others. -/
def groups : List (κ × α) → List (κ × List α)
  | [] => []
  | e :: rest => (e.1, e.2 :: (rest.filter fun d => d.1 == e.1).map Prod.snd) :: groups (drop e.1 rest)
termination_by es => es.length
decreasing_by exact Nat.lt_succ_of_le (List.length_filter_le ..)

/-- No entry is lost or repeated. -/
theorem perm_groups (es : List (κ × α)) : ((groups es).flatMap Prod.snd).Perm (es.map Prod.snd) := by
  induction es using groups.induct with
  | case1 => simp [groups]
  | case2 e rest ih =>
    rw [groups, List.flatMap_cons, List.map_cons, List.cons_append]
    refine List.Perm.cons e.2 ((ih.append_left _).trans ?_)
    rw [← List.map_append]
    exact (List.filter_append_perm (fun d => d.1 == e.1) rest).map Prod.snd

section Same

variable [PartialEquivBEq κ]

/-- One more entry goes behind those of its key; a key that was not there opens the last group. -/
theorem groups_concat (es : List (κ × α)) (k : κ) (a : α) :
    groups (es ++ [(k, a)]) = put k ((find? k (groups es)).getD [] ++ [a]) (groups es) := by
  induction es using groups.induct with
  | case1 => simp [groups, put, find?, drop]
  | case2 e rest ih =>
    have left : drop e.1 (rest ++ [(k, a)]) = drop e.1 rest ++ drop e.1 [(k, a)] := List.filter_append ..
    rw [List.cons_append, groups, groups, find?, put, List.filter_append, left]
    by_cases hk : (e.1 == k) = true
    · simp [drop, hk, BEq.symm hk]
    · have hk' : ¬ (k == e.1) = true := fun h => hk (BEq.symm h)
      have stays : drop e.1 [(k, a)] = [(k, a)] := by simp [drop, hk']
      simp [stays, hk, hk', ih]

/-- The first of a group is the first entry with its key. -/
theorem head?_groups (es : List (κ × α)) (k : κ) : (find? k (groups es)).bind List.head? = find? k es := by
  induction es using groups.induct with
  | case1 => simp [groups, find?]
  | case2 e rest ih =>
    rw [groups, find?, find?]
    by_cases hk : (e.1 == k) = true
    · simp [hk]
    · rw [if_neg hk, if_neg hk, ih, find?_drop, if_neg hk]

end Same

end HttpExchange.OrderedMap

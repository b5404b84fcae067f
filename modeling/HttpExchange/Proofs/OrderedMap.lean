import Mathlib.Data.List.Induction
import HttpExchange.OrderedMap

/-!
# Entries of ordered maps after an update

How an update changes the list of entries as a whole, which also tells their order.

## Main statements

* `OrderedMap.find?_eq_some_iff`: what is found is the value of the only entry with the key.
* `OrderedMap.put_of_find?_eq_some`: a value is replaced in its place.
* `OrderedMap.drop_put`: entries with other keys stay where they are.
* `OrderedMap.insert_insert`: of two values for one key the second one is kept.
* `OrderedMap.keys_ofList`, `OrderedMap.get?_ofList`: of several entries with a key, the first one tells the
  place and the last one the value.
-/

namespace HttpExchange.OrderedMap

variable {κ ν : Type} [BEq κ] {k : κ} {v w : ν} {es : List (κ × ν)}

theorem beq_eq_false_of_beq [PartialEquivBEq κ] {d e : κ × ν} (hd : (d.1 == k) = true)
    (h : (d.1 == e.1) = false) : (e.1 == k) = false := by
  cases he : e.1 == k with
  | false => rfl
  | true => rw [BEq.trans hd (BEq.symm he)] at h; cases h

/-- What is found is the value of an entry with the key. -/
theorem exists_mem_of_find? (h : find? k es = some v) : ∃ e ∈ es, (e.1 == k) = true ∧ e.2 = v := by
  induction es with
  | nil => cases h
  | cons d rest ih =>
    rw [find?] at h
    split at h
    · next hd => exact ⟨d, List.mem_cons_self, hd, Option.some.inj h⟩
    · obtain ⟨e, he, hek, hv⟩ := ih h
      exact ⟨e, List.mem_cons_of_mem d he, hek, hv⟩

theorem find?_eq_some_iff [PartialEquivBEq κ] (distinct : es.Pairwise fun a b => (a.1 == b.1) = false) :
    find? k es = some v ↔ ∃ e ∈ es, (e.1 == k) = true ∧ e.2 = v := by
  induction es with
  | nil => simp [find?]
  | cons d rest ih =>
    obtain ⟨hd, hrest⟩ := List.pairwise_cons.1 distinct
    rw [find?]
    cases hk : d.1 == k with
    | false => simp [hk, ih hrest]
    | true =>
      rw [if_pos rfl, Option.some.injEq]
      constructor
      · intro hv
        exact ⟨d, List.mem_cons_self, hk, hv⟩
      · rintro ⟨e, he, hek, hv⟩
        rcases List.mem_cons.1 he with rfl | he
        · exact hv
        · rw [beq_eq_false_of_beq hk (hd e he)] at hek
          cases hek

/-- There is at most one entry with a key. -/
theorem map_filter_eq_toList [PartialEquivBEq κ] (distinct : es.Pairwise fun a b => (a.1 == b.1) = false) :
    (es.filter fun e => e.1 == k).map Prod.snd = (find? k es).toList := by
  induction es with
  | nil => rfl
  | cons d rest ih =>
    obtain ⟨hd, hrest⟩ := List.pairwise_cons.1 distinct
    rw [find?, List.filter_cons]
    cases hk : d.1 == k with
    | false => exact ih hrest
    | true =>
      have others : rest.filter (fun e => e.1 == k) = [] :=
        List.filter_eq_nil_iff.2 fun e he => by simp [beq_eq_false_of_beq hk (hd e he)]
      simp [others]

theorem put_of_find?_eq_some [PartialEquivBEq κ] (distinct : es.Pairwise fun a b => (a.1 == b.1) = false)
    (h : find? k es = some w) : put k v es = es.map fun e => if e.1 == k then (e.1, v) else e := by
  induction es with
  | nil => cases h
  | cons d rest ih =>
    obtain ⟨hd, hrest⟩ := List.pairwise_cons.1 distinct
    rw [find?] at h
    rw [put, List.map_cons]
    cases hk : d.1 == k with
    | false => simp [ih hrest (by simpa [hk] using h)]
    | true =>
      have others : rest.map (fun e => if e.1 == k then (e.1, v) else e) = rest.map id := by
        refine List.map_congr_left fun e he => ?_
        simp [beq_eq_false_of_beq hk (hd e he)]
      simp [others]

theorem drop_put [ReflBEq κ] (k : κ) (v : ν) (es : List (κ × ν)) : drop k (put k v es) = drop k es := by
  induction es with
  | nil => simp [put, drop]
  | cons e rest ih =>
    rw [put]
    unfold drop at ih ⊢
    by_cases hk : (e.1 == k) = true
    · simp [hk]
    · simp [hk, ih]

theorem put_put [ReflBEq κ] (k : κ) (v w : ν) (es : List (κ × ν)) : put k w (put k v es) = put k w es := by
  induction es with
  | nil => simp [put]
  | cons e rest ih =>
    rw [put, put]
    by_cases hk : (e.1 == k) = true
    · simp [put, hk]
    · simp [put, hk, ih]

/-- A value that is inserted over another one leaves nothing of it. -/
theorem insert_insert [ReflBEq κ] (m : OrderedMap κ ν) (k : κ) (v w : ν) :
    (m.insert k v).insert k w = m.insert k w :=
  ext (put_put k v w m.entries)

theorem drop_of_find?_eq_none (h : find? k es = none) : drop k es = es := by
  refine List.filter_eq_self.2 fun e he => ?_
  rw [find?_eq_none_iff.1 h e he]
  rfl

theorem get?_mapValues (f : ν → ν) (m : OrderedMap κ ν) (k : κ) :
    (m.mapValues f).get? k = (m.get? k).map f := by
  show find? k (m.entries.map fun e => (e.1, f e.2)) = (find? k m.entries).map f
  induction m.entries with
  | nil => rfl
  | cons e rest ih =>
    rw [List.map_cons, find?, find?]
    split
    · rfl
    · exact ih

theorem ofList_concat (es : List (κ × ν)) (e : κ × ν) :
    ofList (es ++ [e]) = (ofList es).insert e.1 e.2 := by
  simp [ofList]

/-- Entries with distinct keys are inserted as they are. -/
theorem entries_ofList (distinct : es.Pairwise fun a b => (a.1 == b.1) = false) : (ofList es).entries = es := by
  induction es using List.reverseRecOn with
  | nil => rfl
  | append_singleton es e ih =>
    obtain ⟨hes, -, hlast⟩ := List.pairwise_append.1 distinct
    have fresh : find? e.1 (ofList es).entries = none := by
      rw [ih hes]
      exact find?_eq_none_iff.2 fun d hd => hlast d hd e List.mem_cons_self
    rw [ofList_concat]
    show put e.1 e.2 (ofList es).entries = _
    rw [put_of_find?_eq_none fresh, ih hes]

section Lawful

variable [LawfulBEq κ]

theorem get?_ofList (es : List (κ × ν)) (k : κ) : (ofList es).get? k = es.reverse.lookup k := by
  induction es using List.reverseRecOn with
  | nil => rfl
  | append_singleton es e ih =>
    rw [ofList_concat, get?_insert, List.reverse_concat, List.lookup_cons, ih, BEq.comm]
    cases k == e.1 <;> rfl

theorem contains_ofList (es : List (κ × ν)) (k : κ) :
    (ofList es).contains k = true ↔ k ∈ es.map Prod.fst := by
  rw [contains, get?_ofList, List.lookup_isSome_iff, List.mem_map]
  simp only [List.mem_reverse, beq_iff_eq, @eq_comm κ k]

theorem keys_ofList (es : List (κ × ν)) : (ofList es).keys = (es.map Prod.fst).eraseDups := by
  induction es using List.reverseRecOn with
  | nil => rfl
  | append_singleton es e ih =>
    rw [ofList_concat, List.map_append, List.eraseDups_append, ← ih]
    by_cases he : e.1 ∈ es.map Prod.fst
    · rw [keys_insert_of_contains ((contains_ofList es e.1).2 he)]
      simp [List.removeAll, he]
    · rw [keys_insert_of_not_contains (mt (contains_ofList es e.1).1 he)]
      simp [List.removeAll, he, List.eraseDups_cons]

end Lawful

end HttpExchange.OrderedMap

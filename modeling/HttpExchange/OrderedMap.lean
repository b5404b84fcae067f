/-!
# Maps in order of insertion

A map keeps its entries in the order in which their keys were first inserted. Inserting a key that is
there replaces its value and keeps its place and spelling; a key that was erased goes to the end when it
comes back. Keys are compared by a relation that need not be equality: the number one is the same key
whether it is written as an integer or not. A key that is not even the same as itself is never found.

## Main statements

* `get?_insert`, `get?_erase`: what is found after an update.
* `keys_insert_of_contains`, `keys_insert_of_not_contains`, `keys_erase`: the order of the keys after an
  update.
* `nodup_keys`: where keys are compared by equality, no key occurs twice.
-/

namespace HttpExchange

/-- A map whose entries have an order and whose keys are distinct. -/
structure OrderedMap (κ ν : Type) [BEq κ] where
  /-- The entries, the one inserted first in front. -/
  entries : List (κ × ν)
  /-- No two entries have the same key. -/
  distinct : entries.Pairwise fun a b => (a.1 == b.1) = false

namespace OrderedMap

variable {κ ν : Type} [BEq κ]

/-- The map without entries. -/
def empty : OrderedMap κ ν := ⟨[], .nil⟩

/-- Two maps with the same entries are the same. -/
theorem ext {m n : OrderedMap κ ν} (h : m.entries = n.entries) : m = n := by
  cases m; cases n; simp_all

/-- The value of `k` in a list of entries. -/
def find? (k : κ) : List (κ × ν) → Option ν
  | [] => none
  | e :: rest => if e.1 == k then some e.2 else find? k rest

/-- The keys in order. -/
def keys (m : OrderedMap κ ν) : List κ := m.entries.map Prod.fst

/-- The values in the order of their keys. -/
def values (m : OrderedMap κ ν) : List ν := m.entries.map Prod.snd

/-- The value of a key. -/
def get? (m : OrderedMap κ ν) (k : κ) : Option ν := find? k m.entries

/-- Is there an entry with this key? -/
def contains (m : OrderedMap κ ν) (k : κ) : Bool := (m.get? k).isSome

/-- The number of entries. -/
def size (m : OrderedMap κ ν) : Nat := m.entries.length

/-- Is there no entry? -/
def isEmpty (m : OrderedMap κ ν) : Bool := m.entries.isEmpty

/-! ## Updates of lists of entries -/

/-- The entries with the value of `k` replaced, or with a new entry at the end. -/
def put (k : κ) (v : ν) : List (κ × ν) → List (κ × ν)
  | [] => [(k, v)]
  | e :: rest => if e.1 == k then (e.1, v) :: rest else e :: put k v rest

/-- The entries with other keys than `k`. -/
def drop (k : κ) (es : List (κ × ν)) : List (κ × ν) := es.filter fun e => !(e.1 == k)

/-- Replacing a value keeps the keys in their order and spelling. -/
theorem keys_put_of_isSome {k : κ} {v : ν} {es : List (κ × ν)} (h : (find? k es).isSome) :
    (put k v es).map Prod.fst = es.map Prod.fst := by
  induction es with
  | nil => simp [find?] at h
  | cons e rest ih =>
    rw [put]
    split
    · rfl
    · next he =>
      rw [find?, if_neg he] at h
      simp [ih h]

/-- A new key goes to the end. -/
theorem put_of_find?_eq_none {k : κ} {v : ν} {es : List (κ × ν)} (h : find? k es = none) :
    put k v es = es ++ [(k, v)] := by
  induction es with
  | nil => rfl
  | cons e rest ih =>
    rw [find?] at h
    split at h
    · cases h
    · next he => rw [put, if_neg he, ih h, List.cons_append]

/-- What is not found is not there. -/
theorem find?_eq_none_iff {k : κ} {es : List (κ × ν)} :
    find? k es = none ↔ ∀ e ∈ es, (e.1 == k) = false := by
  induction es with
  | nil => simp [find?]
  | cons e rest ih =>
    rw [find?]
    by_cases he : (e.1 == k) = true <;> simp [he, ih]

/-- Putting an entry keeps the keys distinct. -/
theorem distinct_put {k : κ} {v : ν} {es : List (κ × ν)}
    (h : es.Pairwise fun a b => (a.1 == b.1) = false) :
    (put k v es).Pairwise fun a b => (a.1 == b.1) = false := by
  cases hk : find? k es with
  | none =>
    rw [put_of_find?_eq_none hk, List.pairwise_append]
    refine ⟨h, List.pairwise_singleton _ _, fun a ha b hb => ?_⟩
    rw [List.mem_singleton.1 hb]
    exact find?_eq_none_iff.1 hk a ha
  | some w =>
    have keys : ((put k v es).map Prod.fst).Pairwise fun a b => (a == b) = false := by
      rw [keys_put_of_isSome (by simp [hk]), List.pairwise_map]
      exact h
    exact List.pairwise_map.1 keys

/-- Dropping a key keeps the others in their order. -/
theorem keys_drop (k : κ) (es : List (κ × ν)) :
    (drop k es).map Prod.fst = (es.map Prod.fst).filter fun j => !(j == k) := by
  rw [drop, List.filter_map]
  rfl

section Same

variable [PartialEquivBEq κ]

/-- After a value was put for `k`, it is found there and everything else is found as before. -/
theorem find?_put (k j : κ) (v : ν) (es : List (κ × ν)) :
    find? j (put k v es) = if k == j then some v else find? j es := by
  induction es with
  | nil => rfl
  | cons e rest ih =>
    rw [put]
    split
    · next he =>
      by_cases hj : (k == j) = true
      · simp [find?, BEq.trans he hj, hj]
      · have hne : ¬ (e.1 == j) = true := fun h => hj (BEq.trans (BEq.symm he) h)
        simp [find?, hne, hj]
    · next he =>
      by_cases h : (e.1 == j) = true
      · have hj : ¬ (k == j) = true := fun hj => he (BEq.trans h (BEq.symm hj))
        simp [find?, h, hj]
      · simp [find?, h, ih]

/-- After `k` was dropped, nothing is found there and everything else is found as before. -/
theorem find?_drop (k j : κ) (es : List (κ × ν)) :
    find? j (drop k es) = if k == j then none else find? j es := by
  induction es with
  | nil => simp [drop, find?]
  | cons e rest ih =>
    by_cases he : (e.1 == k) = true
    · have hd : drop k (e :: rest) = drop k rest := by simp [drop, he]
      rw [hd, ih]
      by_cases hj : (k == j) = true
      · simp [hj]
      · have hne : ¬ (e.1 == j) = true := fun h => hj (BEq.trans (BEq.symm he) h)
        simp [find?, hj, hne]
    · have hd : drop k (e :: rest) = e :: drop k rest := by simp [drop, he]
      rw [hd, find?, ih, find?]
      by_cases hj : (e.1 == j) = true
      · have hne : ¬ (k == j) = true := fun h => he (BEq.trans hj (BEq.symm h))
        simp [hj, hne]
      · simp [hj]

end Same

/-! ## Updates -/

/-- The map with `v` as the value of `k`; a new key goes to the end. -/
def insert (m : OrderedMap κ ν) (k : κ) (v : ν) : OrderedMap κ ν :=
  ⟨put k v m.entries, distinct_put m.distinct⟩

/-- The map without an entry for `k`. -/
def erase (m : OrderedMap κ ν) (k : κ) : OrderedMap κ ν :=
  ⟨drop k m.entries, m.distinct.filter _⟩

/-- The map with a function applied to all values. -/
def mapValues (f : ν → ν) (m : OrderedMap κ ν) : OrderedMap κ ν :=
  ⟨m.entries.map fun e => (e.1, f e.2), List.pairwise_map.2 m.distinct⟩

/-- The empty map holds nothing. -/
@[simp] theorem get?_empty (k : κ) : (empty : OrderedMap κ ν).get? k = none := rfl

/-- An inserted value is found, and everything else is found as before. -/
@[simp] theorem get?_insert [PartialEquivBEq κ] (m : OrderedMap κ ν) (k j : κ) (v : ν) :
    (m.insert k v).get? j = if k == j then some v else m.get? j :=
  find?_put k j v m.entries

/-- An erased key is not found, and everything else is found as before. -/
@[simp] theorem get?_erase [PartialEquivBEq κ] (m : OrderedMap κ ν) (k j : κ) :
    (m.erase k).get? j = if k == j then none else m.get? j :=
  find?_drop k j m.entries

/-- Inserting at a key that is there keeps the order of the keys. -/
theorem keys_insert_of_contains {m : OrderedMap κ ν} {k : κ} (h : m.contains k) (v : ν) :
    (m.insert k v).keys = m.keys :=
  keys_put_of_isSome h

/-- A key that was not there goes to the end. -/
theorem keys_insert_of_not_contains {m : OrderedMap κ ν} {k : κ} (h : ¬ m.contains k) (v : ν) :
    (m.insert k v).keys = m.keys ++ [k] := by
  have hk : find? k m.entries = none := by simpa [contains, get?] using h
  simp [keys, insert, put_of_find?_eq_none hk]

/-- Erasing a key keeps the others in their order. -/
theorem keys_erase (m : OrderedMap κ ν) (k : κ) :
    (m.erase k).keys = m.keys.filter fun j => !(j == k) :=
  keys_drop k m.entries

/-- Where keys are compared by equality, no key occurs twice. -/
theorem nodup_keys [LawfulBEq κ] (m : OrderedMap κ ν) : m.keys.Nodup :=
  List.pairwise_map.2 (m.distinct.imp fun h => by simpa using h)

/-- The map that results from inserting entries one after another. -/
def ofList (es : List (κ × ν)) : OrderedMap κ ν :=
  es.foldl (fun m e => m.insert e.1 e.2) empty

end OrderedMap

end HttpExchange

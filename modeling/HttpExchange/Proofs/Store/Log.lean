import Mathlib.Data.List.DropRight
import Mathlib.Data.List.Basic

/-!
# What a store holds, told from its log

A store keeps values under names, and names with one key are the same name. Its log tells in order what
was written and what was removed. From the log alone one can tell which names the store has, in which order
and spelling, and which values each of them has: only what happened since the name was last removed counts,
the first write gives the place and the spelling, and the last write that replaced what was there begins
the values.

A row is a name with its values. A store that keeps rows, changes them in place and puts new ones at the end
has exactly the rows that its log tells.

## Main statements

* `StoreLog.names_concat_write`, `StoreLog.names_concat_of_not_written`: the names after one more event.
* `StoreLog.exists_mem_names_iff`: the names are those that were written since they were last removed.
* `StoreLog.foldl_rowsAfter`: rows that are kept by changing them are those that the log tells.
-/

namespace HttpExchange

/-- What happens to a store. -/
inductive StoreEvent (ι α : Type) where
  /-- Values are written under a name, in place of the present ones or behind them. -/
  | write (name : ι) (values : List α) (replace : Bool)
  | remove (name : ι)
  | clear

variable {ι κ α : Type}

namespace StoreEvent

def values : StoreEvent ι α → List α
  | .write _ values _ => values
  | _ => []

/-- The name under which the event writes. -/
def written? : StoreEvent ι α → Option ι
  | .write name _ _ => some name
  | _ => none

/-- The name that the event is about, if it is about one name only. -/
def name? : StoreEvent ι α → Option ι
  | .write name _ _ | .remove name => some name
  | .clear => none

/-- Does the event replace what was there? -/
def replaces : StoreEvent ι α → Bool
  | .write _ _ replace => replace
  | _ => false

variable [DecidableEq κ] (key : ι → κ)

/-- Does the event write under the name? -/
def writesTo (name : ι) : StoreEvent ι α → Bool
  | .write n _ _ => key n = key name
  | _ => false

/-- Does the event remove the name? -/
def removes (name : ι) : StoreEvent ι α → Bool
  | .write _ _ _ => false
  | .remove n => key n = key name
  | .clear => true

variable {key} in
theorem removes_congr {n name : ι} (e : StoreEvent ι α) (h : key n = key name) :
    e.removes key n = e.removes key name := by
  cases e <;> simp [removes, h]

end StoreEvent

/-- The items from the last one on that has a property, or all if none has it. -/
def fromLast (p : α → Bool) : List α → List α
  | [] => []
  | x :: rest => if rest.any p then fromLast p rest else x :: rest

theorem fromLast_concat (p : α → Bool) (l : List α) (x : α) :
    fromLast p (l ++ [x]) = if p x then [x] else fromLast p l ++ [x] := by
  induction l with
  | nil => by_cases hx : p x <;> simp [fromLast]
  | cons y l ih =>
    rw [List.cons_append, fromLast, ih, fromLast]
    by_cases hx : p x
    · simp [hx]
    · by_cases hl : l.any p <;> simp [hx, hl]

namespace StoreLog

variable [DecidableEq κ] (key : ι → κ)

/-- The writes under a name since it was last removed. -/
def writes (name : ι) (log : List (StoreEvent ι α)) : List (StoreEvent ι α) :=
  (log.rtakeWhile fun e => !e.removes key name).filter (·.writesTo key name)

/-- The values written under a name, from the last write on that replaced those before it. -/
def values (name : ι) (log : List (StoreEvent ι α)) : List α :=
  (fromLast StoreEvent.replaces (writes key name log)).flatMap StoreEvent.values

/-- The name that the event at a place of the log brings into the store, if it is there to stay: the event
is its first write since it was last removed, and it is not removed later. -/
def opened? (log : List (StoreEvent ι α)) (i : Nat) : Option ι :=
  (log[i]?.bind StoreEvent.written?).filter fun name =>
    (writes key name (log.take i)).isEmpty && (log.drop (i + 1)).all (!·.removes key name)

/-- The names in the order of their first writes, each in the spelling of that write. -/
def names (log : List (StoreEvent ι α)) : List ι := (List.range log.length).filterMap (opened? key log)

variable {key}

/-! ## One more event -/

theorem writes_congr {n name : ι} (h : key n = key name) (log : List (StoreEvent ι α)) :
    writes key n log = writes key name log := by
  have hr (e : StoreEvent ι α) : e.removes key n = e.removes key name := e.removes_congr h
  have hw (e : StoreEvent ι α) : e.writesTo key n = e.writesTo key name := by
    cases e <;> simp [StoreEvent.writesTo, h]
  unfold writes
  simp only [hr, hw]

theorem writes_concat (name : ι) (log : List (StoreEvent ι α)) (e : StoreEvent ι α) :
    writes key name (log ++ [e]) = if e.removes key name then [] else
      writes key name log ++ if e.writesTo key name then [e] else [] := by
  unfold writes
  rw [List.rtakeWhile_concat]
  by_cases h : e.removes key name
  · simp [h]
  · by_cases hw : e.writesTo key name <;> simp [h, hw]

theorem writes_concat_of_write {name n : ι} (log : List (StoreEvent ι α)) (vs : List α) (replace : Bool)
    (h : key n = key name) :
    writes key name (log ++ [.write n vs replace]) = writes key name log ++ [.write n vs replace] := by
  simp [writes_concat, StoreEvent.removes, StoreEvent.writesTo, h]

theorem values_congr {n name : ι} (h : key n = key name) (log : List (StoreEvent ι α)) :
    values key n log = values key name log := by
  unfold values
  rw [writes_congr h]

theorem values_of_writes_eq_nil {name : ι} {log : List (StoreEvent ι α)} (h : writes key name log = []) :
    values key name log = [] := by
  unfold values
  rw [h]
  rfl

/-- An event leaves the writes under a name alone if it neither writes under it nor removes it. -/
theorem writes_concat_of_other {name : ι} {e : StoreEvent ι α} (log : List (StoreEvent ι α))
    (hw : e.writesTo key name = false) (hr : e.removes key name = false) :
    writes key name (log ++ [e]) = writes key name log := by
  simp [writes_concat, hw, hr]

theorem values_concat_of_other {name : ι} {e : StoreEvent ι α} (log : List (StoreEvent ι α))
    (hw : e.writesTo key name = false) (hr : e.removes key name = false) :
    values key name (log ++ [e]) = values key name log := by
  unfold values
  rw [writes_concat_of_other log hw hr]

theorem values_concat_of_write {name n : ι} (log : List (StoreEvent ι α)) (vs : List α) (replace : Bool)
    (h : key n = key name) : values key name (log ++ [.write n vs replace]) =
      if replace then vs else values key name log ++ vs := by
  unfold values
  rw [writes_concat_of_write log vs replace h, fromLast_concat]
  cases replace <;> simp [StoreEvent.replaces, StoreEvent.values]

/-- What was brought into the store before the last event is there afterwards unless this one removes it. -/
theorem opened?_concat (log : List (StoreEvent ι α)) (e : StoreEvent ι α) {i : Nat} (hi : i < log.length) :
    opened? key (log ++ [e]) i = (opened? key log i).filter fun n => !e.removes key n := by
  have later : (log ++ [e]).drop (i + 1) = log.drop (i + 1) ++ [e] := List.drop_append_of_le_length hi
  have earlier : (log ++ [e]).take i = log.take i := List.take_append_of_le_length hi.le
  unfold opened?
  rw [later, earlier, List.getElem?_append_left hi, Option.filter_filter]
  congr 1
  funext n
  simp [Bool.and_assoc]

theorem names_concat (log : List (StoreEvent ι α)) (e : StoreEvent ι α) :
    names key (log ++ [e]) = ((names key log).filter fun n => !e.removes key n) ++
      (e.written?.filter fun n => (writes key n log).isEmpty).toList := by
  have last : opened? key (log ++ [e]) log.length =
      e.written?.filter fun n => (writes key n log).isEmpty := by
    simp [opened?]
  unfold names
  rw [List.length_append, List.length_singleton, List.range_succ, List.filterMap_append]
  congr 1
  · rw [List.filter_filterMap]
    refine List.filterMap_congr fun i hi => ?_
    exact opened?_concat log e (List.mem_range.1 hi)
  · rw [List.filterMap_cons, last]
    cases e.written?.filter fun n => (writes key n log).isEmpty <;> rfl

theorem names_concat_write (log : List (StoreEvent ι α)) (n : ι) (vs : List α) (replace : Bool) :
    names key (log ++ [.write n vs replace]) =
      names key log ++ if (writes key n log).isEmpty then [n] else [] := by
  rw [names_concat]
  congr 1
  · exact List.filter_eq_self.2 fun _ _ => rfl
  · by_cases h : (writes key n log).isEmpty <;> simp [StoreEvent.written?, Option.filter, h]

theorem names_concat_of_not_written (log : List (StoreEvent ι α)) {e : StoreEvent ι α}
    (he : e.written? = none) :
    names key (log ++ [e]) = (names key log).filter fun n => !e.removes key n := by
  rw [names_concat, he]
  exact List.append_nil _

/-- Of the names that are there, an event that writes nothing leaves those that it does not remove. -/
theorem exists_mem_names_concat_iff {name : ι} {log : List (StoreEvent ι α)} {e : StoreEvent ι α}
    (he : e.written? = none) : (∃ n ∈ names key (log ++ [e]), key n = key name) ↔
      e.removes key name = false ∧ ∃ n ∈ names key log, key n = key name := by
  rw [names_concat_of_not_written log he]
  constructor
  · rintro ⟨n, hn, hkey⟩
    obtain ⟨hmem, hr⟩ := List.mem_filter.1 hn
    rw [e.removes_congr hkey] at hr
    exact ⟨by simpa using hr, n, hmem, hkey⟩
  · rintro ⟨hr, n, hmem, hkey⟩
    refine ⟨n, List.mem_filter.2 ⟨hmem, ?_⟩, hkey⟩
    rw [e.removes_congr hkey, hr]
    rfl

/-- The names are those that were written since they were last removed. -/
theorem exists_mem_names_iff (name : ι) (log : List (StoreEvent ι α)) :
    (∃ n ∈ names key log, key n = key name) ↔ writes key name log ≠ [] := by
  induction log using List.reverseRecOn with
  | nil => simp [names, writes]
  | append_singleton log e ih =>
    cases e with
    | remove | clear =>
      rw [exists_mem_names_concat_iff rfl, ih, writes_concat]
      split <;> simp [StoreEvent.writesTo, *]
    | write n vs replace =>
      rw [names_concat_write]
      by_cases hn : key n = key name
      · rw [writes_concat_of_write log vs replace hn, writes_congr hn]
        by_cases hw : writes key name log = []
        · simp [hw, hn]
        · obtain ⟨m, hm, hkey⟩ := ih.2 hw
          simp only [ne_eq, List.append_eq_nil_iff, hw, false_and, not_false_eq_true, iff_true]
          exact ⟨m, List.mem_append_left _ hm, hkey⟩
      · have other : (StoreEvent.write n vs replace).writesTo key name = false := by
          simp [StoreEvent.writesTo, hn]
        rw [writes_concat_of_other log other rfl, ← ih]
        by_cases hw : (writes key n log).isEmpty <;> simp [hw, hn]

theorem nodup_keys (log : List (StoreEvent ι α)) : ((names key log).map key).Nodup := by
  induction log using List.reverseRecOn with
  | nil => exact List.nodup_nil
  | append_singleton log e ih =>
    cases e with
    | remove | clear =>
      rw [names_concat_of_not_written log rfl]
      exact ih.sublist (List.filter_sublist.map key)
    | write n vs replace =>
      rw [names_concat_write]
      by_cases hw : writes key n log = []
      · have fresh : ∀ m ∈ names key log, key m ≠ key n := by
          intro m hm hkey
          exact (exists_mem_names_iff n log).1 ⟨m, hm, hkey⟩ hw
        simpa [hw, List.nodup_append] using ⟨ih, fresh⟩
      · simpa [hw] using ih

/-! ## Rows that are changed -/

variable (key) in
/-- The rows after an event, changed in their places. -/
def rowsAfter (rows : List (ι × List α)) : StoreEvent ι α → List (ι × List α)
  | .write name vs replace =>
    if rows.any fun row => key row.1 = key name then
      rows.map fun row =>
        if key row.1 = key name then (row.1, if replace then vs else row.2 ++ vs) else row
    else rows ++ [(name, vs)]
  | e => rows.filter fun row => !e.removes key row.1

/-- Rows that are changed by one event after another are the rows that the log tells. -/
theorem foldl_rowsAfter (log : List (StoreEvent ι α)) :
    log.foldl (rowsAfter key) [] = (names key log).map fun n => (n, values key n log) := by
  induction log using List.reverseRecOn with
  | nil => rfl
  | append_singleton log e ih =>
    rw [List.foldl_concat, ih]
    cases e with
    | remove | clear =>
      rw [names_concat_of_not_written log rfl, rowsAfter, List.filter_map]
      · refine List.map_congr_left fun n hn => ?_
        have hr := (List.mem_filter.1 hn).2
        rw [values_concat_of_other log rfl (by simpa using hr)]
      · intro n vs replace h
        cases h
    | write n vs replace =>
      have present : (((names key log).map fun m => (m, values key m log)).any fun row =>
          key row.1 = key n) = !(writes key n log).isEmpty := by
        rw [Bool.eq_iff_iff]
        simpa using exists_mem_names_iff n log
      have others : ∀ m, key m ≠ key n →
          values key m (log ++ [.write n vs replace]) = values key m log := by
        intro m hm
        have hne : key n ≠ key m := fun h => hm h.symm
        exact values_concat_of_other log (by simp [StoreEvent.writesTo, hne]) rfl
      rw [rowsAfter, present, names_concat_write]
      by_cases hw : (writes key n log).isEmpty
      · rw [hw, if_neg (by decide), if_pos rfl, List.map_append]
        have none_before : writes key n log = [] := List.isEmpty_iff.1 hw
        congr 1
        · refine List.map_congr_left fun m hm => ?_
          rw [others m fun hkey => (exists_mem_names_iff n log).1 ⟨m, hm, hkey⟩ none_before]
        · simp [values_concat_of_write log vs replace rfl, values_of_writes_eq_nil none_before]
      · rw [if_pos (by simpa using hw), if_neg hw, List.append_nil, List.map_map]
        refine List.map_congr_left fun m _ => ?_
        by_cases hm : key m = key n
        · simp [hm, values_concat_of_write log vs replace hm.symm]
        · simp [hm, others m hm]

end StoreLog

end HttpExchange

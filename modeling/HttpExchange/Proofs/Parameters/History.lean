import HttpExchange.Proofs.Effect
import HttpExchange.Proofs.OrderedMap
import HttpExchange.Proofs.Store.Log
import HttpExchange.Session.Subject

/-!
# Parameters are what their log tells

Parameters form a store of rows, a row being a name with its values, and names are the same if they have one
code. An operation on parameters is a sequence of events of a log: a map that is written is one event for each
of its entries up to the first one that is refused. So the parameters after any run are those that the log
tells, failures included.

## Main statements

* `ParametersOp.state_run`: operations do what their events say.
* `Parameters.entries_apply`: an event changes the rows in their places.
* `Parameters.isTold_foldl`: the rows after a log.
-/

namespace HttpExchange

open OrderedMap

namespace Parameters

/-- The parameters after an event. -/
def apply (p : Parameters) : StoreEvent Key Value → Parameters
  | .write name vs replace => p.insert name (if replace then vs else (p.get? name).getD [] ++ vs)
  | .remove name => p.erase name
  | .clear => .empty

/-- What it is to write an entry of a map, unless the entry is refused. -/
def entryEvent? (replace : Bool) (entry : Key × Value) : Option (StoreEvent Key Value) :=
  match requireName entry.1, valuesOf entry.1 entry.2 with
  | .ok name, .ok vs => some (.write name vs replace)
  | _, _ => none

/-- What it is to write a map, up to the first entry that is refused. -/
def entryEvents (replace : Bool) : List (Key × Value) → List (StoreEvent Key Value)
  | [] => []
  | entry :: rest =>
    match entryEvent? replace entry with
    | some e => e :: entryEvents replace rest
    | none => []

end Parameters

/-- What an operation does to parameters, one event after another. -/
def ParametersOp.events : ParametersOp → List (StoreEvent Key Value)
  | .set .null _ | .add .null _ => []
  | .set name vs => [.write name vs true]
  | .add name vs => [.write name vs false]
  | .update (.map _ entries) => Parameters.entryEvents true entries
  | .extend (.map _ entries) => Parameters.entryEvents false entries
  | .remove .null => []
  | .remove name => (name.key?.map StoreEvent.remove).toList
  | .clear => [.clear]
  | _ => []

namespace Parameters

variable {ε : Type}

/-! ## Operations -/

theorem requireName_eq_ok_iff {name k : Key} : requireName name = .ok k ↔ name ≠ .null ∧ k = name := by
  cases name <;> simp [requireName, eq_comm]

theorem writeEntry_of_event? {replace : Bool} {entry : Key × Value} {e : StoreEvent Key Value}
    (he : entryEvent? replace entry = some e) (p : Parameters) :
    p.writeEntry replace entry = .ok (p.apply e) := by
  unfold entryEvent? at he
  split at he
  · next name vs hname hvs =>
    obtain rfl := Option.some.inj he
    obtain ⟨-, rfl⟩ := requireName_eq_ok_iff.1 hname
    unfold writeEntry set add
    rw [hvs, hname]
    cases replace <;> rfl
  · cases he

theorem writeEntry_of_refused {replace : Bool} {entry : Key × Value}
    (he : entryEvent? replace entry = none) (p : Parameters) :
    ∃ fault, p.writeEntry replace entry = .error fault := by
  unfold writeEntry
  cases hvs : valuesOf entry.1 entry.2 with
  | error fault => exact ⟨fault, rfl⟩
  | ok vs =>
    cases hname : requireName entry.1 with
    | error fault =>
      unfold set add
      rw [hname]
      refine ⟨fault, ?_⟩
      cases replace <;> rfl
    | ok name => simp [entryEvent?, hname, hvs] at he

theorem state_writeEntries (replace : Bool) (entries : List (Key × Value)) (p : Parameters) :
    (writeEntries replace entries p : Outcome Parameters ε Unit).state =
      (entryEvents replace entries).foldl apply p := by
  induction entries generalizing p with
  | nil => rfl
  | cons entry rest ih =>
    rw [writeEntries, entryEvents]
    cases he : entryEvent? replace entry with
    | some e =>
      rw [Action.update_bind_of_ok (writeEntry_of_event? he p)]
      exact ih (p.apply e)
    | none =>
      obtain ⟨fault, hfault⟩ := writeEntry_of_refused he p
      have refused : (Action.update (fun p => writeEntry p replace entry) p : Outcome Parameters ε Unit) =
          ⟨p, [], .error fault⟩ := by
        simp [Action.update, Action.atomic, hfault, Except.map]
      rw [Action.bind_of_error (by rw [refused]), refused]
      rfl

/-- Where no entry is refused, all are written. -/
theorem writeEntries_of_accepted {replace : Bool} {entries : List (Key × Value)}
    (h : ∀ entry ∈ entries, (entryEvent? replace entry).isSome) (p : Parameters) :
    (writeEntries replace entries p : Outcome Parameters ε Unit).result = .ok () := by
  induction entries generalizing p with
  | nil => rfl
  | cons entry rest ih =>
    obtain ⟨e, he⟩ := Option.isSome_iff_exists.1 (h entry List.mem_cons_self)
    rw [writeEntries, Action.update_bind_of_ok (writeEntry_of_event? he p)]
    exact ih (fun other hother => h other (List.mem_cons_of_mem entry hother)) _

theorem erase_of_isEmpty {p : Parameters} (h : p.isEmpty = true) (k : Key) : p.erase k = p := by
  refine OrderedMap.ext ?_
  have none_there : p.entries = [] := List.isEmpty_iff.1 h
  simp [erase, drop, none_there]

theorem state_remove {name : Value} (hname : name ≠ .null) (p : Parameters) :
    (Action.update (fun p => Parameters.remove p name) p : Outcome Parameters ε Unit).state =
      (name.key?.map StoreEvent.remove).toList.foldl apply p := by
  have removed : Parameters.remove p name = if p.isEmpty then .ok p else name.requireKey.map p.erase := by
    cases name <;> first | rfl | exact absurd rfl hname
  simp only [Action.update, Action.atomic, removed, Value.requireKey]
  by_cases hp : p.isEmpty = true
  · cases name.key? with
    | none => simp [hp, Except.map]
    | some k => simp [hp, Except.map, apply, erase_of_isEmpty hp]
  · cases name.key? with
    | none => simp [hp, Except.map]
    | some k => simp [hp, Except.map, apply]

end Parameters

theorem ParametersOp.state_run (op : ParametersOp) (p : Parameters) :
    (Subject.parameters.run op p).state = op.events.foldl Parameters.apply p := by
  cases op with
  | set name vs => cases name <;> rfl
  | add name vs => cases name <;> rfl
  | update map =>
    cases map with
    | map m entries =>
      exact (Action.state_silently _ p).trans (Parameters.state_writeEntries true entries p)
    | _ => rfl
  | extend map =>
    cases map with
    | map m entries =>
      exact (Action.state_silently _ p).trans (Parameters.state_writeEntries false entries p)
    | _ => rfl
  | remove name =>
    by_cases hname : name = .null
    · subst hname
      rfl
    · have events_eq : (ParametersOp.remove name).events = (name.key?.map StoreEvent.remove).toList := by
        cases name <;> first | rfl | exact absurd rfl hname
      rw [events_eq]
      exact (Action.state_silently _ p).trans (Parameters.state_remove hname p)
  | has name => cases name <;> rfl
  | _ => rfl

theorem ParametersOp.result_valuesOf {name : Key} (hname : name ≠ .null) (p : Parameters) :
    (Subject.parameters.run (.valuesOf name) p).result = .ok (((p.get? name).map Answer.list).getD .none) := by
  show ((Parameters.requireName name).map p.get?).map _ = _
  rw [Parameters.requireName_eq_ok_iff.2 ⟨hname, rfl⟩]
  show Except.ok _ = _
  cases p.get? name <;> rfl

namespace Parameters

theorem after_eq (ops : List ParametersOp) (p : Parameters) :
    Subject.parameters.after ops p = (ops.flatMap ParametersOp.events).foldl apply p := by
  induction ops generalizing p with
  | nil => rfl
  | cons op rest ih =>
    rw [List.flatMap_cons, List.foldl_append, ← ParametersOp.state_run]
    exact ih _

/-- Parameters that are made of a map are those that writing the map gives. -/
theorem eq_of_ofMap {given : Value} {made : Parameters} (h : ofMap given = .ok made) :
    made = (ParametersOp.update given).events.foldl apply .empty := by
  cases given with
  | null => exact (Except.ok.inj h).symm
  | map m entries =>
    obtain ⟨-, -, rfl⟩ := map_eq_ok_iff.1 h
    exact state_writeEntries true entries .empty
  | _ => cases h

/-! ## Rows after an event -/

/-- The event writes texts, under a name that is the same as itself. -/
def WritesTexts : StoreEvent Key Value → Prop
  | .write name vs _ => name ≠ .null ∧ (name == name) = true ∧ ∀ v ∈ vs, v.isText = true
  | _ => True

/-- All names are the same as themselves, and all values are texts. -/
def HasTexts (p : Parameters) : Prop :=
  ∀ row ∈ p.entries, row.1 ≠ .null ∧ (row.1 == row.1) = true ∧ ∀ v ∈ row.2, v.isText = true

theorem beq_eq_decide_code {a : Key} (ha : (a == a) = true) (b : Key) : (a == b) = decide (a.code = b.code) := by
  obtain ⟨c, hc, -⟩ := Key.beq_iff.1 ha
  rw [Bool.eq_iff_iff, decide_eq_true_iff, Key.beq_iff, hc]
  constructor
  · rintro ⟨d, hd, hb⟩
    rw [hd, hb]
  · intro h
    exact ⟨c, rfl, h.symm⟩

theorem code_eq_of_beq {a b : Key} (h : (a == b) = true) : a.code = b.code := by
  obtain ⟨c, ha, hb⟩ := Key.beq_iff.1 h
  rw [ha, hb]

variable {p : Parameters} {e : StoreEvent Key Value}

theorem get?_apply (p : Parameters) (e : StoreEvent Key Value) (name : Key)
    (hw : e.writesTo Key.code name = false) (hr : e.removes Key.code name = false) :
    (p.apply e).get? name = p.get? name := by
  cases e with
  | write k vs replace =>
    have other : (k == name) = false := by
      by_contra h
      have same := code_eq_of_beq (Bool.not_eq_false _ ▸ h)
      simp [StoreEvent.writesTo, same] at hw
    rw [apply, get?_insert, other]
    rfl
  | remove k =>
    have other : (k == name) = false := by
      by_contra h
      have same := code_eq_of_beq (Bool.not_eq_false _ ▸ h)
      simp [StoreEvent.removes, same] at hr
    rw [apply, get?_erase, other]
    rfl
  | clear => cases hr

/-- Events leave the values of a name alone if they neither write under it nor remove it. -/
theorem get?_foldl_apply {events : List (StoreEvent Key Value)} {name : Key} (p : Parameters)
    (h : ∀ e ∈ events, e.writesTo Key.code name = false ∧ e.removes Key.code name = false) :
    (events.foldl apply p).get? name = p.get? name := by
  induction events generalizing p with
  | nil => rfl
  | cons e rest ih =>
    obtain ⟨⟨hw, hr⟩, hrest⟩ := List.forall_mem_cons.1 h
    rw [List.foldl_cons, ih _ hrest, get?_apply p e name hw hr]

/-- What is done by other names leaves the values of a name alone. -/
theorem result_valuesOf_of_other {op : ParametersOp} {name : Key}
    (h : ∀ e ∈ op.events, e.writesTo Key.code name = false ∧ e.removes Key.code name = false) (p : Parameters) :
    (Subject.parameters.run (.valuesOf name) (Subject.parameters.run op p).state).result =
      (Subject.parameters.run (.valuesOf name) p).result := by
  by_cases hname : name = .null
  · subst hname
    rfl
  · rw [ParametersOp.result_valuesOf hname, ParametersOp.result_valuesOf hname, ParametersOp.state_run,
      get?_foldl_apply p h]

/-- An event changes the rows in their places. -/
theorem entries_apply (hp : p.HasTexts) (he : WritesTexts e) :
    (p.apply e).entries = StoreLog.rowsAfter Key.code p.entries e := by
  cases e with
  | clear => exact (List.filter_eq_nil_iff.2 fun _ _ => Bool.false_ne_true).symm
  | remove k =>
    show drop k p.entries = p.entries.filter _
    refine List.filter_congr fun row hrow => ?_
    rw [beq_eq_decide_code (hp row hrow).2.1]
    simp [StoreEvent.removes, eq_comm]
  | write name vs replace =>
    have same : ∀ row ∈ p.entries, (row.1 == name) = decide (row.1.code = name.code) :=
      fun row hrow => beq_eq_decide_code (hp row hrow).2.1 name
    show put name (if replace then vs else (find? name p.entries).getD [] ++ vs) p.entries = _
    rw [StoreLog.rowsAfter]
    cases hfind : find? name p.entries with
    | none =>
      have absent : (p.entries.any fun row => row.1.code = name.code) = false := by
        rw [List.any_eq_false]
        intro row hrow
        rw [← same row hrow, find?_eq_none_iff.1 hfind row hrow]
        decide
      rw [absent, put_of_find?_eq_none hfind]
      simp
    | some w =>
      obtain ⟨row, hrow, hname, -⟩ := (find?_eq_some_iff p.distinct).1 hfind
      have present : (p.entries.any fun row => row.1.code = name.code) = true := by
        refine List.any_eq_true.2 ⟨row, hrow, ?_⟩
        rwa [← same row hrow]
      rw [present, if_pos rfl, put_of_find?_eq_some p.distinct hfind]
      refine List.map_congr_left fun other hother => ?_
      rw [same other hother]
      by_cases hcode : other.1.code = name.code
      · have found : find? name p.entries = some other.2 :=
          (find?_eq_some_iff p.distinct).2 ⟨other, hother, by rw [same other hother]; simpa using hcode, rfl⟩
        rw [hfind] at found
        obtain rfl := Option.some.inj found
        simp [hcode]
      · simp [hcode]

theorem hasTexts_apply (hp : p.HasTexts) (he : WritesTexts e) : (p.apply e).HasTexts := by
  unfold HasTexts
  rw [entries_apply hp he]
  cases e with
  | clear | remove k =>
    intro row hrow
    exact hp row (List.mem_filter.1 hrow).1
  | write name vs replace =>
    obtain ⟨hne, hself, htexts⟩ := he
    intro row hrow
    rw [StoreLog.rowsAfter] at hrow
    split at hrow
    · obtain ⟨old, hold, rfl⟩ := List.mem_map.1 hrow
      obtain ⟨hne', hself', htexts'⟩ := hp old hold
      split
      · refine ⟨hne', hself', fun v hv => ?_⟩
        cases replace with
        | true => exact htexts v hv
        | false =>
          rcases List.mem_append.1 hv with hv | hv
          · exact htexts' v hv
          · exact htexts v hv
      · exact ⟨hne', hself', htexts'⟩
    · rcases List.mem_append.1 hrow with hrow | hrow
      · exact hp row hrow
      · obtain rfl := List.mem_singleton.1 hrow
        exact ⟨hne, hself, htexts⟩

/-! ## Runs -/

/-- The parameters have the rows that the log tells. -/
structure IsTold (log : List (StoreEvent Key Value)) (p : Parameters) : Prop where
  texts : p.HasTexts
  entries_eq : p.entries = (StoreLog.names Key.code log).map fun n => (n, StoreLog.values Key.code n log)

theorem isTold_foldl {log : List (StoreEvent Key Value)} (h : ∀ e ∈ log, WritesTexts e) :
    IsTold log (log.foldl apply .empty) := by
  have rows : (log.foldl apply .empty).HasTexts ∧
      (log.foldl apply .empty).entries = log.foldl (StoreLog.rowsAfter Key.code) [] := by
    induction log using List.reverseRecOn with
    | nil => exact ⟨List.forall_mem_nil _, rfl⟩
    | append_singleton log e ih =>
      obtain ⟨htexts, hrows⟩ := ih fun d hd => h d (List.mem_append_left _ hd)
      have he := h e (by simp)
      rw [List.foldl_concat, List.foldl_concat, ← hrows]
      exact ⟨hasTexts_apply htexts he, entries_apply htexts he⟩
  exact ⟨rows.1, rows.2.trans (StoreLog.foldl_rowsAfter log)⟩

namespace IsTold

variable {log : List (StoreEvent Key Value)} (told : p.IsTold log)
include told

theorem keys_eq : p.keys = StoreLog.names Key.code log := by
  rw [keys, told.entries_eq, List.map_map]
  exact List.map_id _

theorem get?_eq (name : Key) : p.get? name =
    if StoreLog.writes Key.code name log = [] then none else some (StoreLog.values Key.code name log) := by
  have same : ∀ n ∈ StoreLog.names Key.code log, (n == name) = true ↔ n.code = name.code := by
    intro n hn
    have hrow : (n, StoreLog.values Key.code n log) ∈ p.entries := told.entries_eq ▸ List.mem_map_of_mem hn
    rw [beq_eq_decide_code (told.texts _ hrow).2.1, decide_eq_true_iff]
  split
  · next hw =>
    refine find?_eq_none_iff.2 fun row hrow => ?_
    rw [told.entries_eq] at hrow
    obtain ⟨n, hn, rfl⟩ := List.mem_map.1 hrow
    by_contra hname
    have hcode := (same n hn).1 (Bool.not_eq_false _ ▸ hname)
    exact (StoreLog.exists_mem_names_iff name log).1 ⟨n, hn, hcode⟩ hw
  · next hw =>
    obtain ⟨n, hn, hcode⟩ := (StoreLog.exists_mem_names_iff name log).2 hw
    refine (find?_eq_some_iff p.distinct).2 ⟨(n, StoreLog.values Key.code n log), ?_, (same n hn).2 hcode, ?_⟩
    · rw [told.entries_eq]
      exact List.mem_map_of_mem hn
    · exact StoreLog.values_congr hcode log

theorem pairs_eq : p.pairs = (StoreLog.names Key.code log).flatMap fun n =>
    (StoreLog.values Key.code n log).map (n, ·) := by
  rw [pairs, told.entries_eq, List.flatMap_map]

theorem result_names : (Subject.parameters.run .names p).result =
    .ok (.list ((StoreLog.names Key.code log).map Value.ofKey)) := by
  show Except.ok (Answer.list (p.keys.map Value.ofKey)) = _
  rw [told.keys_eq]

theorem result_valuesOf {name : Key} (hname : name ≠ .null) :
    (Subject.parameters.run (.valuesOf name) p).result = .ok
      (if StoreLog.writes Key.code name log = [] then .none else .list (StoreLog.values Key.code name log)) := by
  rw [ParametersOp.result_valuesOf hname, told.get?_eq name]
  split <;> rfl

theorem result_pairs : (Subject.parameters.run .pairs p).result =
    .ok (.list ((StoreLog.names Key.code log).flatMap fun n =>
      (StoreLog.values Key.code n log).map fun v => .ofTuple [.ofKey n, v])) := by
  show Except.ok (Answer.list (p.pairs.map fun e => Value.ofTuple [.ofKey e.1, e.2])) = _
  rw [told.pairs_eq, List.map_flatMap]
  simp only [List.map_map, Function.comp_def]

end IsTold

end Parameters

end HttpExchange

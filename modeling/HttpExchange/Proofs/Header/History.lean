import HttpExchange.Proofs.Effect
import HttpExchange.Proofs.Header.Keyed
import HttpExchange.Proofs.Store.Log
import HttpExchange.Session.Subject

/-!
# Headers are what their log tells

Headers form a store of rows, a row being the first spelling of a name with the values of the header, and
names that differ in case only are one name. Each operation on headers changes the rows as one event of a
log says, or leaves them alone, so that after any run the headers are those that the log tells.

## Main statements

* `Headers.rows_put`, `Headers.rows_remove`: what operations do to the rows.
* `HeadersOp.result_of_read`: what operations that only read answer.
* `Headers.told_by_log`: names and values after any run, and what an operation on one name leaves alone.
-/

namespace HttpExchange

/-- What an operation makes of headers, if it changes them by a name or altogether. -/
def HeadersOp.event? : HeadersOp → Option (StoreEvent String Value)
  | .set _ .null _ | .add _ .null => none
  | .set name value replace => some (.write name value.flatten replace)
  | .add name value => some (.write name value.flatten false)
  | .remove name | .delete name => some (.remove name)
  | .clear => some .clear
  | _ => none

/-- Does an operation go through the values of a header that were handed out? -/
def HeadersOp.isOnValues : HeadersOp → Bool
  | .onValues _ _ => true
  | _ => false

/-- Does an operation on the values of a header write any? -/
def ValuesOp.writes : ValuesOp → Bool
  | .add _ | .addAll _ | .set _ => true
  | _ => false

theorem ValuesOp.values_run {op : ValuesOp} (hop : op.writes = false) {vs : List Value}
    {r : Answer × List Value} (h : op.run vs = .ok r) : r.2 = vs := by
  cases op with
  | add | addAll | set => cases hop
  | firstText =>
    cases vs with
    | nil => cases h; rfl
    | cons v rest =>
      obtain ⟨s, -, rfl⟩ := map_eq_ok_iff.1 h
      rfl
  | texts =>
    obtain ⟨ss, -, rfl⟩ := map_eq_ok_iff.1 h
    rfl
  | _ => cases h; rfl

namespace Headers

open OrderedMap

variable {h : Headers}

/-! ## Rows after an operation -/

theorem rows_put (hk : h.IsKeyed) (name : String) (v : Value) (replace : Bool) :
    (h.put name v replace).rows =
      StoreLog.rowsAfter lowerCase h.rows (.write name v.flatten replace) := by
  rw [StoreLog.rowsAfter, hk.any_rows, values?]
  cases hf : h.get? (lowerCase name) with
  | none =>
    simp [rows, entries_put_of_none hf, Thing.ofText]
  | some x =>
    rw [Option.map_some, Option.isSome_some, if_pos rfl]
    unfold rows
    rw [entries_put_of_some hf, List.map_map, List.map_map]
    refine List.map_congr_left fun e he => ?_
    have key := hk e he
    by_cases hname : lowerCase e.2.name.content = lowerCase name
    · simp [key, hname, combine]
    · simp [key, hname]

theorem rows_remove (hk : h.IsKeyed) (name : String) :
    (h.remove name).rows = StoreLog.rowsAfter lowerCase h.rows (.remove name) := by
  unfold rows remove erase drop
  rw [StoreLog.rowsAfter, List.filter_map]
  · congr 1
    refine List.filter_congr fun e he => ?_
    simp [hk e he, StoreEvent.removes, beq_eq_decide, eq_comm]
  · intro n vs replace hne
    cases hne

/-- A header that is not there cannot be removed. -/
theorem remove_of_not_has {name : String} (hn : h.has name = false) : h.remove name = h := by
  have absent : (h.get? (lowerCase name)).isSome = false := hn
  exact OrderedMap.ext (drop_of_find?_eq_none (Option.not_isSome_iff_eq_none.1 (Bool.not_eq_true _ ▸ absent)))

end Headers

/-! ## Operations -/

namespace HeadersOp

/-- An operation that only reads answers what it has read, if this is there. -/
theorem result_of_read {thisYear : Int} {op : HeadersOp} {h : Headers} {α : Type} {x : Except Fault α}
    {answer : α → Answer} (hread : op.run thisYear h = x.map fun a => (answer a, h)) :
    ((Subject.headers thisYear).run op h).result = x.map answer := by
  show (Action.atomic (op.run thisYear) h).result = _
  unfold Action.atomic
  rw [hread]
  cases x <;> rfl

/-- Operations that read, and writes that are refused, leave the headers as they are. -/
theorem state_of_event?_eq_none (thisYear : Int) {op : HeadersOp} (hop : op.isOnValues = false)
    (he : op.event? = none) (h : Headers) : ((Subject.headers thisYear).run op h).state = h := by
  have same : ((Subject.headers thisYear).run op).Keeps fun g g' => g' = g := by
    refine Action.keeps_atomic (R := fun g g' => g' = g) (fun _ => rfl) fun g a g' hg => ?_
    cases op with
    | onValues => cases hop
    | remove | clear | delete => cases he
    | set name v | add name v =>
      cases v with
      | null => cases hg
      | _ => cases he
    | get | texts | integer | date | items | pairs | item | literal =>
      obtain ⟨x, -, hx⟩ := map_eq_ok_iff.1 hg
      cases hx
      rfl
    | has name => cases name <;> cases hg <;> rfl
    | _ => cases hg; rfl
  exact same h

theorem state_delete (thisYear : Int) (name : String) (h : Headers) :
    ((Subject.headers thisYear).run (.delete name) h).state = h.remove name := by
  cases hn : h.has name with
  | true =>
    have hd : h.delete name = .ok (h.remove name) := if_pos hn
    simp [Subject.headers, run, Action.atomic, hd, Except.map]
  | false =>
    have hd : h.delete name = .error (.missing (.ofText name)) := if_neg (by simpa [Headers.has] using hn)
    simp [Subject.headers, run, Action.atomic, hd, Except.map, Headers.remove_of_not_has hn]

/-- All that operations do: they write a value, remove a name or remove all. -/
theorem state_of_event? (thisYear : Int) {op : HeadersOp} {e : StoreEvent String Value}
    (he : op.event? = some e) (h : Headers) :
    (∃ name v replace, e = .write name v.flatten replace ∧
      ((Subject.headers thisYear).run op h).state = h.put name v replace) ∨
    (∃ name, e = .remove name ∧ ((Subject.headers thisYear).run op h).state = h.remove name) ∨
    (e = .clear ∧ ((Subject.headers thisYear).run op h).state = .empty) := by
  cases op with
  | set name v replace =>
    cases v with
    | null => cases he
    | _ => cases he; exact .inl ⟨name, _, replace, rfl, rfl⟩
  | add name v =>
    cases v with
    | null => cases he
    | _ => cases he; exact .inl ⟨name, _, false, rfl, rfl⟩
  | remove name => cases he; exact .inr (.inl ⟨name, rfl, rfl⟩)
  | delete name => cases he; exact .inr (.inl ⟨name, rfl, state_delete thisYear name h⟩)
  | clear => cases he; exact .inr (.inr ⟨rfl, rfl⟩)
  | _ => cases he

theorem isKeyed_run (thisYear : Int) {op : HeadersOp} {e : StoreEvent String Value}
    (he : op.event? = some e) {h : Headers} (hk : h.IsKeyed) :
    ((Subject.headers thisYear).run op h).state.IsKeyed := by
  obtain ⟨name, v, replace, -, hs⟩ | ⟨name, -, hs⟩ | ⟨-, hs⟩ := state_of_event? thisYear he h
  · rw [hs]
    exact Headers.isKeyed_put hk name v replace
  · rw [hs]
    exact Headers.isKeyed_remove hk name
  · rw [hs]
    exact Headers.isKeyed_empty

/-- Each operation does to the rows what its event says. -/
theorem rows_run (thisYear : Int) {op : HeadersOp} {e : StoreEvent String Value}
    (he : op.event? = some e) {h : Headers} (hk : h.IsKeyed) :
    ((Subject.headers thisYear).run op h).state.rows = StoreLog.rowsAfter lowerCase h.rows e := by
  obtain ⟨name, v, replace, rfl, hs⟩ | ⟨name, rfl, hs⟩ | ⟨rfl, hs⟩ :=
    state_of_event? thisYear he h
  · rw [hs, Headers.rows_put hk]
  · rw [hs, Headers.rows_remove hk]
  · rw [hs]
    exact (List.filter_eq_nil_iff.2 fun _ _ => Bool.false_ne_true).symm

/-- Does an operation write values of the header of that name? -/
def WritesTo (name : String) : HeadersOp → Prop
  | .set n v _ | .add n v => lowerCase n = lowerCase name ∧ v ≠ .null
  | .onValues n op => lowerCase n = lowerCase name ∧ op.writes = true
  | _ => False

/-- Does an operation remove the header of that name, alone or with all others? -/
def RemovesFrom (name : String) : HeadersOp → Prop
  | .remove n | .delete n => lowerCase n = lowerCase name
  | .clear => True
  | _ => False

theorem writesTo_of_event? {op : HeadersOp} {n name : String} {vs : List Value} {replace : Bool}
    (he : op.event? = some (.write n vs replace)) (hname : lowerCase n = lowerCase name) :
    op.WritesTo name := by
  cases op with
  | set m v | add m v =>
    cases v with
    | null => cases he
    | _ =>
      cases he
      exact ⟨hname, Value.noConfusion⟩
  | _ => cases he

theorem removesFrom_of_event? {op : HeadersOp} {n name : String} (he : op.event? = some (.remove n))
    (hname : lowerCase n = lowerCase name) : op.RemovesFrom name := by
  cases op with
  | remove m | delete m =>
    cases he
    exact hname
  | set m v | add m v => cases v <;> cases he
  | _ => cases he

theorem removesFrom_of_clear {op : HeadersOp} (he : op.event? = some .clear) (name : String) :
    op.RemovesFrom name := by
  cases op with
  | clear => trivial
  | set m v | add m v => cases v <;> cases he
  | _ => cases he

/-- What is not written to a header is not found there, and what is not removed stays. -/
theorem first?_run (thisYear : Int) {op : HeadersOp} {name : String} (hw : ¬ op.WritesTo name) (h : Headers) :
    ((Subject.headers thisYear).run op h).state.first? name = h.first? name ∨
      op.RemovesFrom name ∧ ((Subject.headers thisYear).run op h).state.first? name = none := by
  cases hop : op.isOnValues with
  | true =>
    cases op with
    | onValues n op =>
      refine .inl (Action.keeps_atomic (R := fun g g' => g'.first? name = g.first? name) (fun _ => rfl)
        (fun g a g' hg => ?_) h)
      obtain ⟨r, hr, heq⟩ := map_eq_ok_iff.1 hg
      obtain ⟨rfl, rfl⟩ := Prod.mk.inj heq
      by_cases hname : lowerCase n = lowerCase name
      · have reads : op.writes = false := Bool.not_eq_true _ ▸ fun hwrites => hw ⟨hname, hwrites⟩
        rw [ValuesOp.values_run reads hr]
        exact Headers.first?_setValues_valuesOf g n name
      · exact Headers.first?_setValues_of_ne g hname _
    | _ => cases hop
  | false =>
    cases he : op.event? with
    | none => exact .inl (by rw [state_of_event?_eq_none thisYear hop he])
    | some e =>
      obtain ⟨n, v, replace, rfl, hs⟩ | ⟨n, rfl, hs⟩ | ⟨rfl, hs⟩ := state_of_event? thisYear he h
      · have hne : lowerCase n ≠ lowerCase name := fun hname => hw (writesTo_of_event? he hname)
        rw [hs]
        exact .inl (Headers.first?_put_of_ne h hne v replace)
      · rw [hs, Headers.first?_remove]
        by_cases hname : lowerCase n = lowerCase name
        · exact .inr ⟨removesFrom_of_event? he hname, if_pos hname⟩
        · exact .inl (if_neg hname)
      · rw [hs]
        exact .inr ⟨removesFrom_of_clear he name, rfl⟩

/-- The name that an operation is about, if it changes the headers by one name only. -/
def name? (op : HeadersOp) : Option String := op.event?.bind StoreEvent.name?

end HeadersOp

/-! ## Runs -/

namespace Headers

open OrderedMap

/-- The headers have the rows that the log tells. -/
structure IsTold (log : List (StoreEvent String Value)) (h : Headers) : Prop where
  keyed : h.IsKeyed
  rows_eq : h.rows = (StoreLog.names lowerCase log).map fun n => (n, StoreLog.values lowerCase n log)

theorem isTold_empty : IsTold [] empty := ⟨isKeyed_empty, rfl⟩

theorem IsTold.run {log : List (StoreEvent String Value)} {h : Headers} (told : h.IsTold log)
    (thisYear : Int) {op : HeadersOp} (hop : op.isOnValues = false) :
    IsTold (log ++ op.event?.toList) ((Subject.headers thisYear).run op h).state := by
  cases he : op.event? with
  | none =>
    rw [HeadersOp.state_of_event?_eq_none thisYear hop he, Option.toList_none, List.append_nil]
    exact told
  | some e =>
    refine ⟨HeadersOp.isKeyed_run thisYear he told.keyed, ?_⟩
    rw [HeadersOp.rows_run thisYear he told.keyed, told.rows_eq, ← StoreLog.foldl_rowsAfter,
      ← StoreLog.foldl_rowsAfter, Option.toList_some, List.foldl_concat]

theorem IsTold.after {log : List (StoreEvent String Value)} {h : Headers} (told : h.IsTold log)
    (thisYear : Int) {ops : List HeadersOp} (hops : ∀ op ∈ ops, op.isOnValues = false) :
    IsTold (log ++ ops.filterMap HeadersOp.event?) ((Subject.headers thisYear).after ops h) := by
  induction ops generalizing log h with
  | nil => simpa [Subject.after] using told
  | cons op rest ih =>
    have next := told.run thisYear (hops op List.mem_cons_self)
    have last := ih next fun d hd => hops d (List.mem_cons_of_mem op hd)
    cases he : op.event? <;> simpa [Subject.after, he] using last

/-- Headers that are made of pairs are those that adding one pair after another gives. -/
theorem ofPairs_eq (thisYear : Int) {pairs : List (String × Value)} (hpairs : ∀ p ∈ pairs, p.2 ≠ .null) :
    ofPairs pairs = .ok ((Subject.headers thisYear).after (pairs.map fun p => .add p.1 p.2) empty) := by
  unfold ofPairs
  generalize (empty : Headers) = h
  induction pairs generalizing h with
  | nil => rfl
  | cons p rest ih =>
    have added : Headers.add h p.1 p.2 = .ok ((Subject.headers thisYear).run (.add p.1 p.2) h).state := by
      have hv := hpairs p List.mem_cons_self
      cases hp : p.2 with
      | null => exact absurd hp hv
      | _ => rfl
    rw [List.foldlM_cons, added]
    exact ih (fun q hq => hpairs q (List.mem_cons_of_mem p hq)) _

section Told

variable {log : List (StoreEvent String Value)} {h : Headers}

theorem IsTold.names_eq (told : h.IsTold log) :
    h.values.map (·.name.content) = StoreLog.names lowerCase log := by
  have first := congrArg (List.map Prod.fst) told.rows_eq
  simpa [rows, OrderedMap.values, Function.comp_def] using first

theorem IsTold.values?_eq_some_iff (told : h.IsTold log) {name : String} {vs : List Value} :
    h.values? name = some vs ↔
      StoreLog.writes lowerCase name log ≠ [] ∧ vs = StoreLog.values lowerCase name log := by
  rw [told.keyed.values?_eq_some_iff, told.rows_eq, ← StoreLog.exists_mem_names_iff]
  constructor
  · rintro ⟨row, hrow, hname, rfl⟩
    obtain ⟨n, hn, rfl⟩ := List.mem_map.1 hrow
    exact ⟨⟨n, hn, hname⟩, StoreLog.values_congr hname log⟩
  · rintro ⟨⟨n, hn, hname⟩, rfl⟩
    exact ⟨_, List.mem_map_of_mem hn, hname, StoreLog.values_congr hname log⟩

theorem IsTold.valuesOf_eq (told : h.IsTold log) (name : String) :
    h.valuesOf name = StoreLog.values lowerCase name log := by
  unfold valuesOf
  cases hvs : h.values? name with
  | some vs => exact (told.values?_eq_some_iff.1 hvs).2
  | none =>
    by_cases hw : StoreLog.writes lowerCase name log = []
    · exact (StoreLog.values_of_writes_eq_nil hw).symm
    · rw [told.values?_eq_some_iff.2 ⟨hw, rfl⟩] at hvs
      cases hvs

theorem IsTold.has_iff (told : h.IsTold log) (name : String) :
    h.has name = true ↔ ∃ n ∈ StoreLog.names lowerCase log, lowerCase n = lowerCase name := by
  rw [has_eq_isSome, Option.isSome_iff_exists, StoreLog.exists_mem_names_iff]
  constructor
  · rintro ⟨vs, hvs⟩
    exact (told.values?_eq_some_iff.1 hvs).1
  · intro hw
    exact ⟨_, told.values?_eq_some_iff.2 ⟨hw, rfl⟩⟩

end Told

/-! ## Other names -/

/-- The headers of other names, in their order. -/
def others (name : String) (h : Headers) : List Header :=
  h.values.filter fun x => lowerCase x.name.content != lowerCase name

theorem IsKeyed.others_eq {h : Headers} (hk : h.IsKeyed) (name : String) :
    h.others name = (drop (lowerCase name) h.entries).map Prod.snd := by
  unfold others OrderedMap.values drop
  rw [List.filter_map]
  congr 1
  refine List.filter_congr fun e he => ?_
  rw [hk e he]
  rfl

theorem others_putAs {h : Headers} (hk : h.IsKeyed) (name : Thing String) (v : Value) (replace : Bool) :
    (h.putAs name v replace).others name.content = h.others name.content := by
  rw [(isKeyed_putAs hk name v replace).others_eq, hk.others_eq]
  congr 1
  unfold putAs
  dsimp only
  cases h.get? (lowerCase name.content) <;> exact drop_put _ _ _

theorem others_put {h : Headers} (hk : h.IsKeyed) (name : String) (v : Value) (replace : Bool) :
    (h.put name v replace).others name = h.others name :=
  others_putAs hk (.ofText (.named (lowerCase name)) name) v replace

theorem others_remove {h : Headers} (hk : h.IsKeyed) (name : String) :
    (h.remove name).others name = h.others name := by
  rw [(isKeyed_remove hk name).others_eq, hk.others_eq]
  exact congrArg (List.map Prod.snd) (List.filter_filter.trans (by simp [drop]))

theorem others_run {h : Headers} (hk : h.IsKeyed) {thisYear : Int} {op : HeadersOp} {name : String}
    (hop : op.name? = some name) :
    ((Subject.headers thisYear).run op h).state.others name = h.others name := by
  obtain ⟨e, he, hname⟩ := Option.bind_eq_some_iff.1 hop
  obtain ⟨n, v, replace, rfl, hs⟩ | ⟨n, rfl, hs⟩ | ⟨rfl, hs⟩ :=
    HeadersOp.state_of_event? thisYear he h
  · cases hname
    rw [hs, others_put hk]
  · cases hname
    rw [hs, others_remove hk]
  · cases hname

/-- After headers were made of pairs and any operations were done on them, those that fail included: the names
listed are those that the log tells, each once up to case; the headers that are there are those of the names
listed; a header has the values that the log tells, however its name is written; and what an operation does by
one name leaves the headers of other names alone, with the spelling of their names and their order. -/
theorem told_by_log (thisYear : Int) (pairs : List (String × Value)) (ops : List HeadersOp)
    (hpairs : ∀ p ∈ pairs, p.2 ≠ .null) (hops : ∀ op ∈ ops, op.isOnValues = false) :
    ∃ made, ofPairs pairs = .ok made ∧
      let log := (pairs.map (fun p => HeadersOp.add p.1 p.2) ++ ops).filterMap HeadersOp.event?
      let h := (Subject.headers thisYear).after ops made
      (∃ listed, ((Subject.headers thisYear).run .names h).result = .ok (.list listed) ∧
        listed.map Value.display = StoreLog.names lowerCase log) ∧
      ((StoreLog.names lowerCase log).map lowerCase).Nodup ∧
      (∀ name, h.has name = true ↔ ∃ n ∈ StoreLog.names lowerCase log, lowerCase n = lowerCase name) ∧
      (∀ name, ((Subject.headers thisYear).run (.valuesOf name) h).result =
        .ok (.list (StoreLog.values lowerCase name log))) ∧
      ∀ op name, op.name? = some name →
        ((Subject.headers thisYear).run op h).state.others name = h.others name := by
  refine ⟨_, ofPairs_eq thisYear hpairs, ?_⟩
  intro log h
  have told : h.IsTold log := by
    have given : ∀ op ∈ pairs.map (fun p => HeadersOp.add p.1 p.2) ++ ops, op.isOnValues = false := by
      intro op hop
      rcases List.mem_append.1 hop with hop | hop
      · obtain ⟨p, -, rfl⟩ := List.mem_map.1 hop
        rfl
      · exact hops op hop
    have all := isTold_empty.after thisYear given
    rwa [List.nil_append, Subject.after_append] at all
  refine ⟨⟨h.values.map (·.name.text), rfl, ?_⟩, StoreLog.nodup_keys log, told.has_iff, ?_,
    fun op name hop => others_run told.keyed hop⟩
  · rw [← told.names_eq, List.map_map]
    rfl
  · intro name
    rw [← told.valuesOf_eq name]
    rfl

/-- A header that was removed and written again stands last, in its new spelling. -/
theorem told_by_log_after_removal :
    let pairs : List (String × Value) := [("Via", .ofText "a"), ("VIA", .ofText "b"), ("X-Id", .ofText "1")]
    let ops : List HeadersOp := [.set "x-id" .null true, .remove "via", .set "viA" (.ofText "c") true]
    ∃ made, ofPairs pairs = .ok made ∧
      (∃ listed, ((Subject.headers 2024).run .names ((Subject.headers 2024).after ops made)).result =
        .ok (.list listed) ∧ listed.map Value.display = ["X-Id", "viA"]) ∧
      ((Subject.headers 2024).run (.valuesOf "Via") ((Subject.headers 2024).after ops made)).result =
        .ok (.list [.ofText "c"]) := by
  intro pairs ops
  have given : ∀ p ∈ pairs, p.2 ≠ .null := by simp [pairs, Value.ofText]
  obtain ⟨made, hmade, names, -, -, values, -⟩ := told_by_log 2024 pairs ops given (by decide)
  exact ⟨made, hmade, names, values "Via"⟩

end Headers

end HttpExchange

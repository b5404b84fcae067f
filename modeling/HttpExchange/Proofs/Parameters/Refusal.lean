import HttpExchange.Proofs.Parameters.History
import HttpExchange.Proofs.Request.Step

/-!
# Maps of parameters that are refused

A map is written entry by entry, and an entry is looked at when its turn comes. The first entry that is refused
ends the writing: the entries in front of it stay written, and the fault is the one of this entry. A map that is
refused therefore changes nothing only where it is refused for its first entry.

## Main statements

* `Parameters.writeEntries_append`: the entries of a map one part after the other.
* `ParametersOp.run_write_of_refused`: what a refused map leaves behind.
* `Subject.refused_map_changes_nothing_iff`: the maps that are written completely or not at all.
-/

namespace HttpExchange

namespace Parameters

variable {ε : Type}

/-! ## Entries that are refused -/

/-- A text, or a sequence of texts. -/
def isTexts : Value → Bool
  | .text _ _ => true
  | .list _ items | .tuple _ items => items.all Value.isText
  | _ => false

/-- The entry has a name, and texts for it. -/
def IsAccepted (entry : Key × Value) : Prop := entry.1 ≠ .null ∧ isTexts entry.2 = true

/-- Why an entry is refused: the values are looked at before the name. -/
def refusal (entry : Key × Value) : Fault :=
  if isTexts entry.2 then .parameterNameMissing else .parameterNotText entry.1 entry.2

theorem valuesOf_cases (name : Key) (value : Value) :
    (isTexts value = true ∧ ∃ vs, valuesOf name value = .ok vs) ∨
    isTexts value = false ∧ valuesOf name value = .error (.parameterNotText name value) := by
  cases value with
  | text m s => exact .inl ⟨rfl, [.text m s], rfl⟩
  | list m items | tuple m items =>
    by_cases htexts : items.all Value.isText = true
    · exact .inl ⟨htexts, items, if_pos htexts⟩
    · exact .inr ⟨Bool.not_eq_true _ ▸ htexts, if_neg htexts⟩
  | _ => exact .inr ⟨rfl, rfl⟩

theorem exists_entryEvent?_of_isAccepted {entry : Key × Value} (h : IsAccepted entry) (replace : Bool) :
    ∃ vs, entryEvent? replace entry = some (.write entry.1 vs replace) := by
  obtain ⟨hname, htexts⟩ := h
  unfold entryEvent?
  rw [requireName_eq_ok_iff.2 ⟨hname, rfl⟩]
  obtain ⟨-, vs, hvs⟩ | ⟨hnone, -⟩ := valuesOf_cases entry.1 entry.2
  · rw [hvs]
    exact ⟨vs, rfl⟩
  · rw [htexts] at hnone
    cases hnone

theorem writeEntry_of_not_isAccepted {entry : Key × Value} (h : ¬ IsAccepted entry) (replace : Bool)
    (p : Parameters) : p.writeEntry replace entry = .error (refusal entry) := by
  unfold writeEntry refusal
  obtain ⟨htexts, vs, hvs⟩ | ⟨hnone, hfault⟩ := valuesOf_cases entry.1 entry.2
  · have nameless : entry.1 = .null := by
      by_contra hname
      exact h ⟨hname, htexts⟩
    rw [hvs, htexts, nameless]
    cases replace <;> rfl
  · rw [hfault, hnone]
    rfl

/-! ## Entries one after another -/

theorem result_writeEntries {entries : List (Key × Value)} (h : ∀ entry ∈ entries, IsAccepted entry)
    (replace : Bool) (p : Parameters) :
    (writeEntries replace entries p : Outcome Parameters ε Unit).result = .ok () := by
  refine writeEntries_of_accepted (fun entry hentry => ?_) p
  obtain ⟨vs, hvs⟩ := exists_entryEvent?_of_isAccepted (h entry hentry) replace
  exact Option.isSome_iff_exists.2 ⟨_, hvs⟩

/-- The entries of a map one part after the other. -/
theorem writeEntries_append {front : List (Key × Value)} (h : ∀ entry ∈ front, IsAccepted entry) (replace : Bool)
    (back : List (Key × Value)) (p : Parameters) :
    (writeEntries replace (front ++ back) p : Outcome Parameters ε Unit) =
      writeEntries replace back (writeEntries replace front p : Outcome Parameters ε Unit).state := by
  induction front generalizing p with
  | nil => rfl
  | cons entry rest ih =>
    obtain ⟨vs, hvs⟩ := exists_entryEvent?_of_isAccepted (h entry List.mem_cons_self) replace
    have written := writeEntry_of_event? hvs p
    rw [List.cons_append, writeEntries, writeEntries, Action.update_bind_of_ok written,
      Action.update_bind_of_ok written]
    exact ih (fun other hother => h other (List.mem_cons_of_mem entry hother)) _

theorem writeEntries_of_not_isAccepted {entry : Key × Value} (h : ¬ IsAccepted entry) (replace : Bool)
    (rest : List (Key × Value)) (p : Parameters) :
    (writeEntries replace (entry :: rest) p : Outcome Parameters ε Unit) = ⟨p, [], .error (refusal entry)⟩ := by
  have refused : (Action.update (fun p => writeEntry p replace entry) p : Outcome Parameters ε Unit) =
      ⟨p, [], .error (refusal entry)⟩ := by
    unfold Action.update Action.atomic
    dsimp only
    rw [writeEntry_of_not_isAccepted h]
    rfl
  rw [writeEntries, Action.bind_of_error (by rw [refused]), refused]

/-- Either all entries are accepted, or there is a first one that is not. -/
theorem accepted_or_exists_first_refused (entries : List (Key × Value)) :
    (∀ entry ∈ entries, IsAccepted entry) ∨
    ∃ front bad back, entries = front ++ bad :: back ∧ (∀ entry ∈ front, IsAccepted entry) ∧
      ¬ IsAccepted bad := by
  induction entries with
  | nil => exact .inl (List.forall_mem_nil _)
  | cons entry rest ih =>
    by_cases hentry : IsAccepted entry
    · obtain hall | ⟨front, bad, back, rfl, hfront, hbad⟩ := ih
      · exact .inl (List.forall_mem_cons.2 ⟨hentry, hall⟩)
      · exact .inr ⟨entry :: front, bad, back, rfl, List.forall_mem_cons.2 ⟨hentry, hfront⟩, hbad⟩
    · exact .inr ⟨[], entry, rest, rfl, List.forall_mem_nil _, hentry⟩

end Parameters

/-! ## Maps -/

open Parameters

/-- Writes a map, over the present values or behind them. -/
def ParametersOp.write (replace : Bool) (map : Value) : ParametersOp :=
  if replace then .update map else .extend map

namespace ParametersOp

theorem run_write (replace : Bool) (m : Mark) (entries : List (Key × Value)) (p : Parameters) :
    Subject.parameters.run (.write replace (.map m entries)) p = (writeEntries replace entries).silently p := by
  cases replace <;> rfl

theorem result_write_of_accepted {entries : List (Key × Value)} (h : ∀ entry ∈ entries, IsAccepted entry)
    (replace : Bool) (m : Mark) (p : Parameters) :
    (Subject.parameters.run (.write replace (.map m entries)) p).result = .ok .none := by
  rw [run_write]
  exact Action.result_silently (result_writeEntries h replace p)

/-- The entries in front of the one that is refused are written, those behind it are not. -/
theorem run_write_of_refused {front : List (Key × Value)} {bad : Key × Value}
    (hfront : ∀ entry ∈ front, IsAccepted entry) (hbad : ¬ IsAccepted bad) (back : List (Key × Value))
    (replace : Bool) (m : Mark) (p : Parameters) :
    let o := Subject.parameters.run (.write replace (.map m (front ++ bad :: back))) p
    o.result = .error (refusal bad) ∧
      o.state = (Subject.parameters.run (.write replace (.map m front)) p).state := by
  intro o
  have written : (writeEntries replace (front ++ bad :: back) p : Outcome Parameters LogRecord Unit) =
      ⟨(writeEntries replace front p : Outcome Parameters LogRecord Unit).state, [], .error (refusal bad)⟩ := by
    rw [writeEntries_append hfront, writeEntries_of_not_isAccepted hbad]
  have outcome : o = (writeEntries replace (front ++ bad :: back)).silently p := run_write replace m _ p
  constructor
  · rw [outcome, Action.silently, Action.bind_of_error (by rw [written])]
  · rw [outcome, run_write, Action.state_silently, Action.state_silently, written]

end ParametersOp

namespace Parameters

theorem entries_insert_ne_nil (p : Parameters) (name : Key) (vs : List Value) :
    (p.insert name vs).entries ≠ [] := by
  show OrderedMap.put name vs p.entries ≠ []
  cases p.entries with
  | nil => exact List.cons_ne_nil _ _
  | cons row rest =>
    rw [OrderedMap.put]
    split <;> exact List.cons_ne_nil _ _

/-- Whoever writes some entries leaves parameters behind. -/
theorem entries_write_ne_nil {front : List (Key × Value)} (hne : front ≠ [])
    (h : ∀ entry ∈ front, IsAccepted entry) (replace : Bool) (m : Mark) (p : Parameters) :
    (Subject.parameters.run (.write replace (.map m front)) p).state.entries ≠ [] := by
  obtain ⟨init, last, rfl⟩ := (List.eq_nil_or_concat front).resolve_left hne
  rw [List.concat_eq_append] at h ⊢
  obtain ⟨vs, hvs⟩ := exists_entryEvent?_of_isAccepted (h last (by simp)) replace
  have init_accepted : ∀ entry ∈ init, IsAccepted entry := fun entry hentry =>
    h entry (List.mem_append_left _ hentry)
  rw [ParametersOp.run_write, Action.state_silently, writeEntries_append init_accepted, writeEntries,
    Action.update_bind_of_ok (writeEntry_of_event? hvs _)]
  exact entries_insert_ne_nil _ _ _

/-! ## All or nothing -/

/-- All entries are accepted, or the first one is not. -/
def IsRefusedAtOnce (entries : List (Key × Value)) : Prop :=
  (∀ entry ∈ entries, IsAccepted entry) ∨ ∃ first rest, entries = first :: rest ∧ ¬ IsAccepted first

/-- Where there are no parameters yet, what was written in front of the refused entry is what is there. -/
theorem unchanged_iff {R : Parameters → Prop} (hempty : R .empty) (replace : Bool) (m : Mark)
    (entries : List (Key × Value)) :
    (∀ p fault, R p → (Subject.parameters.run (.write replace (.map m entries)) p).result = .error fault →
      (Subject.parameters.run (.write replace (.map m entries)) p).state = p) ↔ IsRefusedAtOnce entries := by
  constructor
  · intro hsame
    obtain hall | ⟨front, bad, back, rfl, hfront, hbad⟩ := accepted_or_exists_first_refused entries
    · exact .inl hall
    · by_cases hnone : front = []
      · subst hnone
        exact .inr ⟨bad, back, rfl, hbad⟩
      · obtain ⟨hresult, hstate⟩ := ParametersOp.run_write_of_refused hfront hbad back replace m .empty
        have unchanged := hsame .empty _ hempty hresult
        rw [hstate] at unchanged
        have written := entries_write_ne_nil hnone hfront replace m .empty
        rw [unchanged] at written
        exact absurd rfl written
  · intro honce p fault _ hresult
    obtain hall | ⟨first, rest, rfl, hfirst⟩ := honce
    · rw [ParametersOp.result_write_of_accepted hall] at hresult
      cases hresult
    · have nothing := ParametersOp.run_write_of_refused (List.forall_mem_nil _) hfirst rest replace m p
      rw [List.nil_append] at nothing
      rw [nothing.2, ParametersOp.run_write]
      rfl

/-- Parameters as they are made, of a map or of nothing. -/
def IsNew (p : Parameters) : Prop := ∃ given, ofMap given = .ok p

/-- Parameters that operations lead to. -/
def Reachable : Parameters → Prop := Subject.parameters.Reachable IsNew

end Parameters

namespace Subject

/-- A map that is refused, by parameters or by a request, leaves all reachable ones as they were exactly if it is
refused for its first entry already. -/
theorem refused_map_changes_nothing_iff (thisYear : Int) (replace : Bool) (m : Mark)
    (entries : List (Key × Value)) :
    let op := ParametersOp.write replace (.map m entries)
    ((∀ p fault, Parameters.Reachable p → (Subject.parameters.run op p).result = .error fault →
        (Subject.parameters.run op p).state = p) ↔ IsRefusedAtOnce entries) ∧
    ((∀ r fault, Request.Reachable thisYear r →
        ((Subject.request thisYear).run (.inl (.parameters op)) r).result = .error fault →
        ((Subject.request thisYear).run (.inl (.parameters op)) r).state.parameters = r.parameters) ↔
      IsRefusedAtOnce entries) := by
  intro op
  constructor
  · exact unchanged_iff (.start ⟨.null, rfl⟩) replace m entries
  · let held (p : Parameters) : Prop := ∃ r, Request.Reachable thisYear r ∧ r.parameters = p
    obtain ⟨request, hrequest⟩ : ∃ r, Request.new .null .null ⟨.empty⟩ = .ok r := ⟨_, rfl⟩
    have without : held .empty := by
      refine ⟨request, .start ⟨.null, .null, ⟨.empty⟩, hrequest⟩, ?_⟩
      cases hrequest
      rfl
    rw [← unchanged_iff without replace m entries]
    constructor
    · rintro hsame _ fault ⟨r, hr, rfl⟩ hresult
      exact hsame r fault hr hresult
    · intro hsame r fault hr hresult
      exact hsame r.parameters fault ⟨r, hr, rfl⟩ hresult

/-- The first parameter stays when the number that is given for the second one is refused. -/
theorem refused_map_leaves_first_entry :
    let entries : List (Key × Value) := [(.text .none "a", .ofText "1"), (.text .none "b", .ofInt 5)]
    Parameters.Reachable .empty ∧
      ∃ fault, (Subject.parameters.run (.update (.map .none entries)) .empty).result = .error fault ∧
        (Subject.parameters.run (.update (.map .none entries)) .empty).state ≠ .empty := by
  intro entries
  refine ⟨.start ⟨.null, rfl⟩, .parameterNotText (.text .none "b") (.ofInt 5), rfl, fun h => ?_⟩
  have none_left := congrArg (fun p : Parameters => p.entries.length) h
  cases none_left

end Subject

end HttpExchange

import Mathlib.Data.List.Forall2
import HttpExchange.Proofs.Parameters.History

/-!
# Snapshots of parameters

Parameters can be had as a map from names to fixed sequences of texts, and parameters can be made of such a map.
They are the same as those of which the map was made, parameters without values included, and whoever keeps the
map has it as it was, whatever is done with the parameters later. What is kept gets marks, which tell things
apart and say nothing about what they are.

## Main statements

* `Parameters.ofMap_of_writes`: what is made of a map.
* `Parameters.ofMap_toMap`: parameters are made again of their map.
* `Session.peek_afterOps`: a map that is kept stays as it is.
* `Parameters.history_and_snapshot`: parameters after any run, what their log tells and what a map of them gives.
-/

namespace HttpExchange

open OrderedMap

/-! ## Marks -/

namespace Key

theorem length_keepAll (next : Nat) (ks : List Key) : (keepAll next ks).1.length = ks.length := by
  induction ks generalizing next with
  | nil => rfl
  | cons k rest ih => simp [keepAll, ih]

mutual

/-- A name that is kept is the same name. -/
theorem code_keep (next : Nat) : ∀ k : Key, (k.keep next).1.code = k.code
  | .tuple m items => by simp [keep, code, codes_keepAll, length_keepAll]
  | .null | .bool _ | .int _ _ | .float _ _ | .text _ _ | .bytes _ _ | .dateTime _ _ | .locale _ _ => rfl

theorem codes_keepAll (next : Nat) : ∀ ks : List Key, codes (keepAll next ks).1 = codes ks
  | [] => rfl
  | k :: rest => by simp [keepAll, codes, code_keep, codes_keepAll]

end

theorem keep_eq_null_iff (next : Nat) (k : Key) : (k.keep next).1 = .null ↔ k = .null := by
  cases k <;> simp [keep]

end Key

namespace Value

theorem keepAll_texts {vs : List Value} (h : ∀ v ∈ vs, v.isText = true) (next : Nat) :
    (∀ v ∈ (keepAll next vs).1, v.isText = true) ∧ (keepAll next vs).1.map display = vs.map display := by
  induction vs generalizing next with
  | nil => exact ⟨List.forall_mem_nil _, rfl⟩
  | cons v rest ih =>
    have hv := h v List.mem_cons_self
    cases v with
    | text m s =>
      obtain ⟨htexts, hdisplay⟩ := ih (fun w hw => h w (List.mem_cons_of_mem _ hw)) (keep next (.text m s)).2
      rw [keepAll]
      exact ⟨List.forall_mem_cons.2 ⟨rfl, htexts⟩, congrArg (s :: ·) hdisplay⟩
    | _ => cases hv

end Value

namespace Parameters

/-! ## Parameters that are made of a map -/

/-- The entry of a map gives the row of a parameter. -/
def Writes (row : Key × List Value) (entry : Key × Value) : Prop :=
  entry.1 = row.1 ∧ row.1 ≠ .null ∧ valuesOf entry.1 entry.2 = .ok row.2

theorem Writes.entryEvent? {row : Key × List Value} {entry : Key × Value} (h : Writes row entry)
    (replace : Bool) : entryEvent? replace entry = some (.write row.1 row.2 replace) := by
  obtain ⟨hname, hne, hvs⟩ := h
  have named : requireName entry.1 = .ok row.1 := requireName_eq_ok_iff.2 ⟨hname ▸ hne, hname.symm⟩
  unfold Parameters.entryEvent?
  rw [named, hvs]

theorem entryEvents_of_writes {rows : List (Key × List Value)} {entries : List (Key × Value)}
    (h : List.Forall₂ Writes rows entries) (replace : Bool) :
    entryEvents replace entries = rows.map fun row => .write row.1 row.2 replace := by
  induction h with
  | nil => rfl
  | cons hfirst _ ih =>
    rw [entryEvents, hfirst.entryEvent? replace, List.map_cons]
    exact congrArg _ ih

theorem accepted_of_writes {rows : List (Key × List Value)} {entries : List (Key × Value)}
    (h : List.Forall₂ Writes rows entries) (replace : Bool) :
    ∀ entry ∈ entries, (entryEvent? replace entry).isSome := by
  induction h with
  | nil => exact List.forall_mem_nil _
  | cons hfirst _ ih => exact List.forall_mem_cons.2 ⟨by rw [hfirst.entryEvent? replace]; rfl, ih⟩

/-- What is made of a map. -/
theorem ofMap_of_writes {p : Parameters} {entries : List (Key × Value)}
    (h : List.Forall₂ Writes p.entries entries) (m : Mark) : ofMap (.map m entries) = .ok p := by
  have rows : (entryEvents true entries).foldl apply .empty = p := by
    rw [entryEvents_of_writes h, List.foldl_map]
    exact OrderedMap.ext (entries_ofList p.distinct)
  unfold ofMap
  simp only [writeMap, writeEntries_of_accepted (accepted_of_writes h true), state_writeEntries, rows]
  rfl

theorem writes_ofTuple {row : Key × List Value} (hne : row.1 ≠ .null) (h : ∀ v ∈ row.2, v.isText = true) (m : Mark) :
    Writes row (row.1, .tuple m row.2) :=
  ⟨rfl, hne, if_pos (List.all_eq_true.2 h)⟩

/-- Parameters are made again of their map. -/
theorem ofMap_toMap {p : Parameters} (hp : p.HasTexts) (m : Mark) : ofMap (.map m p.toMap) = .ok p := by
  refine ofMap_of_writes (List.forall₂_map_right_iff.2 (List.forall₂_same.2 fun row hrow => ?_)) m
  exact writes_ofTuple (hp row hrow).1 (hp row hrow).2.2 .none

/-! ## Maps that are kept -/

/-- What the parameters are, marks aside: what their names are compared by, and their texts. -/
def contents (p : Parameters) : List (Option (List KeyPart) × List String) :=
  p.entries.map fun row => (row.1.code, row.2.map Value.display)

theorem exists_rows_keepEntries {rows : List (Key × List Value)}
    (h : ∀ row ∈ rows, row.1 ≠ .null ∧ (row.1 == row.1) = true ∧ ∀ v ∈ row.2, v.isText = true) (next : Nat) :
    ∃ kept : List (Key × List Value),
      List.Forall₂ Writes kept (Value.keepEntries next (rows.map fun row => (row.1, .ofTuple row.2))).1 ∧
      kept.map (fun row => (row.1.code, row.2.map Value.display)) =
        rows.map fun row => (row.1.code, row.2.map Value.display) := by
  induction rows generalizing next with
  | nil => exact ⟨[], .nil, rfl⟩
  | cons row rest ih =>
    obtain ⟨hne, -, htexts⟩ := h row List.mem_cons_self
    let name := row.1.keep next
    let value := (Value.ofTuple row.2).keep name.2
    let marked := Mark.keep name.2 row.2.isEmpty .none
    obtain ⟨kept, hwrites, hsame⟩ := ih (fun other hother => h other (List.mem_cons_of_mem row hother)) value.2
    obtain ⟨hkept, hdisplay⟩ := Value.keepAll_texts htexts marked.2
    refine ⟨(name.1, (Value.keepAll marked.2 row.2).1) :: kept, ?_, ?_⟩
    · have hname : name.1 ≠ .null := mt (Key.keep_eq_null_iff next row.1).1 hne
      have hfirst : Writes (name.1, (Value.keepAll marked.2 row.2).1) (name.1, value.1) :=
        writes_ofTuple hname hkept marked.1
      exact .cons hfirst hwrites
    · simp only [List.map_cons, hsame, hdisplay, name, Key.code_keep]

theorem exists_ofMap_keepEntries {p : Parameters} (hp : p.HasTexts) (next : Nat) (m : Mark) :
    ∃ q, ofMap (.map m (Value.keepEntries next p.toMap).1) = .ok q ∧ q.contents = p.contents := by
  obtain ⟨kept, hwrites, hsame⟩ := exists_rows_keepEntries hp next
  have codes : kept.map (·.1.code) = p.entries.map (·.1.code) := by
    have first := congrArg (List.map Prod.fst) hsame
    simpa only [List.map_map, Function.comp_def] using first
  have distinct : kept.Pairwise fun a b => (a.1 == b.1) = false := by
    have apart : (p.entries.map (·.1.code)).Pairwise fun c d => (c.isSome && c == d) = false :=
      List.pairwise_map.2 p.distinct
    rw [← codes] at apart
    exact List.pairwise_map.1 apart
  exact ⟨⟨kept, distinct⟩, ofMap_of_writes (p := ⟨kept, distinct⟩) hwrites m, hsame⟩

end Parameters

namespace Session

/-- The session after some operations on its object. -/
def afterOps {σ ω : Type} (subject : Subject σ ω) (ops : List ω) (s : Session σ) : Session σ :=
  ops.foldl (fun s op => (run subject (.run op) s).state) s

/-- Operations on parameters do not touch a map that is kept. -/
theorem get?_afterOps {s : Session Parameters} {slot : String} {m : Mark} {entries : List (Key × Value)}
    (h : s.slots.get? slot = some (.readOnly m entries)) (ops : List ParametersOp) :
    (s.afterOps Subject.parameters ops).slots.get? slot = some (.readOnly m entries) := by
  induction ops generalizing s with
  | nil => exact h
  | cons op rest ih =>
    refine ih ?_
    show ((s.slots.mapValues _).get? slot) = _
    rw [get?_mapValues, h]
    rfl

/-- A map that is kept stays as it is, whatever is done with the parameters later, and parameters with the same
contents are made of it. -/
theorem peek_afterOps {s : Session Parameters} (hs : s.object.HasTexts) (slot : String)
    (later : List ParametersOp) :
    let kept := (run Subject.parameters (.hold slot (.run .toMap)) s).state
    ∃ m entries q, (run Subject.parameters (.peek slot) (kept.afterOps Subject.parameters later)).result =
        .ok (.readOnly m entries) ∧
      Parameters.ofMap (.map m entries) = .ok q ∧ q.contents = s.object.contents := by
  intro kept
  let asked := (onObject Subject.parameters .toMap s).state
  let mark := Mark.keep asked.things false .none
  obtain ⟨q, hq, hsame⟩ := Parameters.exists_ofMap_keepEntries hs mark.2 mark.1
  have held : kept.slots.get? slot = some (.readOnly mark.1 (Value.keepEntries mark.2 s.object.toMap).1) :=
    get?_hold slot (.readOnly .none s.object.toMap) asked
  refine ⟨_, _, q, ?_, hq, hsame⟩
  show ((kept.afterOps Subject.parameters later).requireHeld slot).map _ = _
  rw [requireHeld, get?_afterOps held later]
  rfl

end Session

namespace Parameters

/-- After parameters were made of a map and any operations were done on them, those that fail included, when all
that was written were texts, under names that are the same as themselves: the names are those that the log
tells, each once; a parameter has the values that the log tells, if it is there; what is done by other names
leaves its values alone; the pairs are the names with each of their values, in order; and the map of the
parameters gives them again, parameters without values included, also to whoever kept the map when the parameters
were changed later. -/
theorem history_and_snapshot {given : Value} {made : Parameters} (hmade : ofMap given = .ok made)
    (ops : List ParametersOp)
    (hlog : ∀ e ∈ (ParametersOp.update given :: ops).flatMap ParametersOp.events, WritesTexts e) :
    let log := (ParametersOp.update given :: ops).flatMap ParametersOp.events
    let run := Subject.parameters.run
    let p := Subject.parameters.after ops made
    (run .names p).result = .ok (.list ((StoreLog.names Key.code log).map Value.ofKey)) ∧
    ((StoreLog.names Key.code log).map Key.code).Nodup ∧
    (∀ name, name ≠ .null → (run (.valuesOf name) p).result = .ok
      (if StoreLog.writes Key.code name log = [] then .none else .list (StoreLog.values Key.code name log))) ∧
    (∀ op name, (∀ e ∈ op.events, e.writesTo Key.code name = false ∧ e.removes Key.code name = false) →
      (run (.valuesOf name) (run op p).state).result = (run (.valuesOf name) p).result) ∧
    (run .pairs p).result = .ok (.list ((StoreLog.names Key.code log).flatMap fun n =>
      (StoreLog.values Key.code n log).map fun v => .ofTuple [.ofKey n, v])) ∧
    (∃ entries, (run .toMap p).result = .ok (.readOnly .none entries) ∧
      ∀ m, ofMap (.map m entries) = .ok p) ∧
    ∀ (s : Session Parameters) (slot : String) (later : List ParametersOp), s.object = p →
      let kept := (Session.run Subject.parameters (.hold slot (.run .toMap)) s).state
      ∃ m entries q, (Session.run Subject.parameters (.peek slot)
          (kept.afterOps Subject.parameters later)).result = .ok (.readOnly m entries) ∧
        ofMap (.map m entries) = .ok q ∧ q.contents = p.contents := by
  intro log run p
  have p_eq : p = log.foldl apply .empty := by
    show Subject.parameters.after ops made = ((ParametersOp.update given :: ops).flatMap ParametersOp.events).foldl _ _
    rw [after_eq, eq_of_ofMap hmade, List.flatMap_cons, List.foldl_append]
  have told : p.IsTold log := p_eq ▸ isTold_foldl hlog
  refine ⟨told.result_names, StoreLog.nodup_keys log, fun name => told.result_valuesOf,
    fun op name hothers => result_valuesOf_of_other hothers p, told.result_pairs,
    ⟨p.toMap, rfl, ofMap_toMap told.texts⟩, fun s slot later hs => ?_⟩
  have kept := Session.peek_afterOps (hs ▸ told.texts) slot later
  rwa [hs] at kept

/-- A parameter without values is in the map too, and one that was removed and written again stands last. -/
theorem history_and_snapshot_after_removal :
    let page : Key := .text .none "page"
    let tag : Key := .text .none "tag"
    let given : Value := .map .none [(page, .ofText "1"), (tag, .ofList []), (.text .none "sort", .ofText "up")]
    let ops : List ParametersOp := [.remove (.ofText "page"), .add tag [.ofText "a"], .set tag [],
      .extend (.map .none [(page, .ofList [.ofText "2", .ofText "3"])]), .remove .null]
    ∃ made, ofMap given = .ok made ∧
      let p := Subject.parameters.after ops made
      (Subject.parameters.run .names p).result =
        .ok (.list [.ofText "tag", .ofText "sort", .ofText "page"]) ∧
      (Subject.parameters.run (.valuesOf tag) p).result = .ok (.list []) ∧
      (Subject.parameters.run (.valuesOf page) p).result = .ok (.list [.ofText "2", .ofText "3"]) ∧
      ∃ entries, (Subject.parameters.run .toMap p).result = .ok (.readOnly .none entries) ∧
        ∀ m, ofMap (.map m entries) = .ok p := by
  intro page tag given ops
  have accepted : ∃ made, ofMap given = .ok made := ⟨_, rfl⟩
  obtain ⟨made, hmade⟩ := accepted
  have log_eq : (ParametersOp.update given :: ops).flatMap ParametersOp.events =
      [.write page [.ofText "1"] true, .write tag [] true, .write (.text .none "sort") [.ofText "up"] true,
        .remove (.text .none "page"), .write tag [.ofText "a"] false, .write tag [] true,
        .write page [.ofText "2", .ofText "3"] false] := rfl
  have texts : ∀ e ∈ (ParametersOp.update given :: ops).flatMap ParametersOp.events, WritesTexts e := by
    rw [log_eq]
    simp [WritesTexts, page, tag, Value.ofText, Value.isText, Key.beq_iff, Key.code]
  obtain ⟨names, -, values, -, -, map, -⟩ := history_and_snapshot hmade ops texts
  rw [log_eq] at names values
  exact ⟨made, hmade, names, values tag (by simp [tag]), values page (by simp [page]), map⟩

end Parameters

end HttpExchange

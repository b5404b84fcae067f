import HttpExchange.Proofs.Request.Footprint
import HttpExchange.Proofs.Store.Groups

/-!
# The parts of a request

A request keeps the parts that it is given in groups, one for each name. Nothing else changes them, and what has
no name is refused, so that it is told by the parts that were added which ones there are, and in which order.

## Main statements

* `Request.addPart_eq`: a part goes behind those of its name.
* `Subject.parts_of_additions`: the parts of a request are those that were added, in groups.
-/

namespace HttpExchange

open HttpExchange.Action HttpExchange.OrderedMap

/-- The name of a part. Other values have none, and what may change is no name. -/
def Value.partName : Value → Except Fault Key
  | .part _ fields =>
    match Value.field? "name" fields with
    | none => .error .noSuchProperty
    | some name => name.key?.elim (.error .wrongType) .ok
  | _ => .error .noSuchProperty

/-- What has the name of a part is not the absence of a value. -/
theorem Value.ne_null_of_partName {v : Value} {k : Key} (h : v.partName = .ok k) : v ≠ .null := by
  rintro rfl
  cases h

namespace Request

/-- The request with one more part of a name. -/
def withPart (r : Request) (name : Key) (part : Value) : Request :=
  { r with parts := r.parts.insert name ((r.parts.get? name).getD [] ++ [part]) }

/-- A part goes behind those of its name. -/
theorem addPart_eq (part : Value) (r : Request) :
    r.addPart part = part.partName.map fun name => r.withPart name part := by
  cases part with
  | part m fields =>
    unfold addPart Value.partName
    dsimp only
    cases Value.field? "name" fields with
    | none => rfl
    | some name =>
      dsimp only
      cases name.key? <;> rfl
  | _ => rfl

end Request

namespace RequestOp

/-- The part that an operation adds, if it adds one, under its name. -/
def addedPart? : RequestOp → Option (Key × Value)
  | .addPart v => v.partName.toOption.map fun name => (name, v)
  | _ => none

/-- A call adds the part or changes nothing. -/
theorem run_addPart (thisYear : Int) (v : Value) (r : Request) :
    (addPart v).run thisYear r = match v.partName with
      | .ok name => ⟨r.withPart name v, [], .ok .none⟩
      | .error fault => ⟨r, [], .error fault⟩ := by
  cases h : v.partName with
  | ok name =>
    have added : r.addPart v = .ok (r.withPart name v) := by rw [Request.addPart_eq, h]; rfl
    exact update_bind_of_ok added _
  | error fault =>
    have refused : r.addPart v = .error fault := by rw [Request.addPart_eq, h]; rfl
    simp [run, silently, update, atomic, refused, Except.map, bind_of_error]

/-- Nothing but adding a part changes the parts. -/
theorem parts_notMem_footprint {op : RequestOp} (h : ∀ v, op ≠ .addPart v) : .parts ∉ op.footprint := by
  cases op with
  | addPart v => exact absurd rfl (h v)
  | assign p => cases p <;> simp [footprint]
  | headers op =>
    by_cases hop : (op.isOnValues || op.event?.isSome) = true <;> simp [footprint, hop]
  | _ => simp [footprint]

/-- The part that an operation adds goes to its group, and everything else leaves the groups alone. -/
theorem parts_eq_groups (thisYear : Int) (op : RequestOp) {r : Request} {added : List (Key × Value)}
    (h : r.parts.entries = groups added) :
    (op.run thisYear r).state.parts.entries = groups (added ++ op.addedPart?.toList) := by
  by_cases hop : ∃ v, op = .addPart v
  · obtain ⟨v, rfl⟩ := hop
    rw [run_addPart, addedPart?]
    cases v.partName with
    | error fault => simpa [Except.toOption] using h
    | ok name =>
      show put name ((find? name r.parts.entries).getD [] ++ [v]) r.parts.entries = groups (added ++ [(name, v)])
      rw [groups_concat, h]
  · have other : ∀ v, op ≠ .addPart v := fun v hv => hop ⟨v, hv⟩
    have silent : op.addedPart? = none := by
      unfold addedPart?
      split
      · exact absurd rfl (other _)
      · rfl
    rw [(op.keeps_sameApart r).parts_eq (parts_notMem_footprint other), silent]
    simpa using h

end RequestOp

namespace Subject

/-- The part that a step adds, if it adds one, under its name. -/
def RequestStep.addedPart? (step : RequestStep) : Option (Key × Value) := step.op?.bind RequestOp.addedPart?

theorem RequestStep.parts_eq_groups (thisYear : Int) (step : RequestStep) {r : Request}
    {added : List (Key × Value)} (h : r.parts.entries = groups added) :
    ((request thisYear).run step r).state.parts.entries = groups (added ++ step.addedPart?.toList) := by
  rw [addedPart?]
  cases hop : step.op? with
  | none =>
    rw [RequestStep.performs.state_of_op hop]
    simpa using h
  | some op =>
    rw [RequestStep.performs.run_of_op hop]
    exact op.parts_eq_groups thisYear h

/-- After any steps the parts are those that were added, in groups. -/
theorem parts_after (thisYear : Int) {r : Request} (h : r.parts.entries = []) (steps : List RequestStep) :
    ((request thisYear).after steps r).parts.entries = groups (steps.filterMap RequestStep.addedPart?) := by
  induction steps using List.reverseRecOn with
  | nil => rw [List.filterMap_nil, groups]; exact h
  | append_singleton steps step ih =>
    rw [after_append, List.filterMap_append]
    have next := step.parts_eq_groups thisYear ih
    cases hadd : step.addedPart? <;> simpa [after, hadd] using next

end Subject

namespace Request

/-- All parts, group by group. -/
theorem allParts_eq (r : Request) : r.allParts = r.parts.entries.flatMap Prod.snd := by
  rw [allParts, OrderedMap.values, List.flatMap_def]

/-- Where the parts are in groups, the first part of a name is the first one that was added under it. -/
theorem part?_eq {r : Request} {added : List (Key × Value)} (h : r.parts.entries = groups added) (name : Key) :
    r.part? name = find? name added := by
  rw [part?, get?, h, head?_groups]

end Request

namespace RequestOp

theorem run_parts (thisYear : Int) {r : Request} {added : List (Key × Value)}
    (h : r.parts.entries = groups added) :
    parts.run thisYear r = ⟨r, [], .ok (.list ((groups added).flatMap Prod.snd))⟩ := by
  rw [← h, ← Request.allParts_eq]
  rfl

theorem run_part (thisYear : Int) {r : Request} {added : List (Key × Value)} (h : r.parts.entries = groups added)
    (name : Key) : (part name).run thisYear r = ⟨r, [], .ok (.value ((find? name added).getD .null))⟩ := by
  rw [← Request.part?_eq h]
  rfl

end RequestOp

namespace Subject

/-- What was added is something. -/
theorem RequestStep.ne_null_of_addedPart {step : RequestStep} {e : Key × Value} (h : step.addedPart? = some e) :
    e.2 ≠ .null := by
  obtain ⟨op, -, hop⟩ := Option.bind_eq_some_iff.1 h
  cases op with
  | addPart v =>
    rw [RequestOp.addedPart?] at hop
    cases hname : v.partName with
    | error fault => rw [hname] at hop; cases hop
    | ok name =>
      rw [hname] at hop
      cases hop
      exact Value.ne_null_of_partName hname
  | _ => cases hop

/-- There is no first part of a name exactly if none was added under it. -/
theorem first_part_eq_null_iff {added : List (Key × Value)} (h : ∀ e ∈ added, e.2 ≠ .null) (name : Key) :
    (find? name added).getD .null = .null ↔ ∀ e ∈ added, (e.1 == name) = false := by
  rw [← find?_eq_none_iff]
  cases hfind : find? name added with
  | none => simp
  | some v =>
    have there : v ≠ .null := by
      obtain ⟨e, he, -, rfl⟩ := exists_mem_of_find? hfind
      exact h e he
    simpa using there

/-- No part is lost or repeated: all parts are those that were added, by name, in the order in which the names
first came and each name's parts in theirs; the part of a name is the first one that was added under it, and
there is none exactly if none was added. A value that has a name is always taken, and to refuse one changes
nothing. -/
theorem parts_of_additions (thisYear : Int) {r : Request} (hnew : r.IsNew) (steps : List RequestStep) :
    let s := (request thisYear).after steps r
    let added := steps.filterMap RequestStep.addedPart?
    let parts := (groups added).flatMap Prod.snd
    parts.Perm (added.map Prod.snd) ∧
      (∀ step, RequestStep.op? step = some .parts →
        (request thisYear).run step s = ⟨s, [], .ok (.list parts)⟩) ∧
      (∀ name,
        (∀ step, RequestStep.op? step = some (.part name) →
          (request thisYear).run step s = ⟨s, [], .ok (.value ((find? name added).getD .null))⟩) ∧
        ((find? name added).getD .null = .null ↔ ∀ e ∈ added, (e.1 == name) = false)) ∧
      ∀ v step, RequestStep.op? step = some (.addPart v) →
        (∀ name, v.partName = .ok name → ((request thisYear).run step s).result = .ok .none) ∧
        ∀ fault, v.partName = .error fault → (request thisYear).run step s = ⟨s, [], .error fault⟩ := by
  intro s added parts
  have grouped : s.parts.entries = groups added := parts_after thisYear (by rw [hnew.unset.2]; rfl) steps
  refine ⟨perm_groups added, fun step hstep => ?_, fun name => ⟨fun step hstep => ?_, ?_⟩, fun v step hstep => ?_⟩
  · rw [RequestStep.performs.run_of_op hstep, RequestOp.run_parts thisYear grouped]
  · rw [RequestStep.performs.run_of_op hstep, RequestOp.run_part thisYear grouped]
  · refine first_part_eq_null_iff (fun e he => ?_) name
    obtain ⟨step, -, hadded⟩ := List.mem_filterMap.1 he
    exact RequestStep.ne_null_of_addedPart hadded
  · rw [RequestStep.performs.run_of_op hstep, RequestOp.run_addPart]
    constructor
    · intro name hname
      rw [hname]
    · intro fault hfault
      rw [hfault]

/-- Of two parts named a with one named b between them, those named a come first. -/
theorem parts_of_additions_interleaved :
    let named := fun (name : String) (n : Int) => Value.part .none [("name", .ofText name), ("size", .ofInt n)]
    let steps : List RequestStep := [.inl (.addPart (named "a" 1)), .inl (.addPart (.ofText "a")),
      .inl (.addPart (named "b" 2)), .inl (.addPart (named "a" 3))]
    ∃ r, Request.new .null .null ⟨.empty⟩ = .ok r ∧
      let s := (request 2024).after steps r
      (request 2024).run (.inr .parts) s = ⟨s, [], .ok (.list [named "a" 1, named "a" 3, named "b" 2])⟩ ∧
        (request 2024).run (.inl (.part (.text .none "a"))) s = ⟨s, [], .ok (.value (named "a" 1))⟩ ∧
        (request 2024).run (.inl (.part (.text .none "c"))) s = ⟨s, [], .ok (.value .null)⟩ := by
  intro named steps
  obtain ⟨r, hr⟩ : ∃ r, Request.new .null .null ⟨.empty⟩ = .ok r := ⟨_, rfl⟩
  obtain ⟨-, all, first, -⟩ := parts_of_additions 2024 ⟨.null, .null, ⟨.empty⟩, hr⟩ steps
  have added : steps.filterMap RequestStep.addedPart? = [(.text .none "a", named "a" 1),
      (.text .none "b", named "b" 2), (.text .none "a", named "a" 3)] := rfl
  have same : (Key.text .none "a" == Key.text .none "a") = true := by decide
  have other : (Key.text .none "b" == Key.text .none "a") = false := by decide
  have grouped : (groups (steps.filterMap RequestStep.addedPart?)).flatMap Prod.snd =
      [named "a" 1, named "a" 3, named "b" 2] := by
    rw [added]
    simp [groups, drop, same, other]
  refine ⟨r, hr, ?_, ?_, ?_⟩
  · rw [all _ rfl, grouped]
  · exact (first (.text .none "a")).1 (.inl (.part (.text .none "a"))) rfl
  · exact (first (.text .none "c")).1 (.inl (.part (.text .none "c"))) rfl

end Subject

end HttpExchange

import HttpExchange.Proofs.Response.Step

/-!
# The outcome of a response is fixed once

The outcome of a response is its status, the message of its error, and whether these are fixed. Most
operations leave all of it alone. A commit is taken back by a reset only, and until then status and message
stay as they are.

## Main statements

* `Response.outcome_frozen`: over any run, what a commit fixes stays until the next reset, and only
  operations that are meant to commit do so.
-/

namespace HttpExchange

/-! ## What operations do to the outcome -/

namespace Response

/-- What is fixed by a commit, and whether it is. -/
def outcome (r : Response) : Bool × Whole × Option (Thing String) :=
  (r.committed, r.status, r.errorMessage)

def SameOutcome (r r' : Response) : Prop := r'.outcome = r.outcome

theorem SameOutcome.refl (r : Response) : SameOutcome r r := rfl

theorem SameOutcome.trans (r s t : Response) (h : SameOutcome r s) (h' : SameOutcome s t) :
    SameOutcome r t :=
  Eq.trans h' h

/-- What was fixed stays fixed and stays what it was. -/
def Frozen (r r' : Response) : Prop := r.committed = true → r'.outcome = r.outcome

theorem Frozen.refl (r : Response) : Frozen r r := fun _ => rfl

theorem Frozen.trans (r s t : Response) (h : Frozen r s) (h' : Frozen s t) : Frozen r t := by
  intro hr
  have hs : s.outcome = r.outcome := h hr
  have hc : s.committed = true := by rw [← hr]; exact congrArg Prod.fst hs
  exact (h' hc).trans hs

/-- Nothing but the operations on the outcome has to do with it. -/
theorem isLoose_sameOutcome : IsLoose SameOutcome where
  refl := SameOutcome.refl
  trans := SameOutcome.trans
  headers _ _ := rfl
  body _ _ := rfl
  contentType _ _ := rfl
  encoding _ _ := rfl
  locale _ _ := rfl
  bufferSize _ _ := rfl
  cookies _ _ := rfl

theorem frozen_setStatus (r : Response) (n : Whole) : Frozen r (r.setStatus n) := by
  intro hr
  simp [setStatus, hr]

def SameCommit (r r' : Response) : Prop := r'.committed = r.committed

theorem isLoose_sameCommit : IsLoose SameCommit :=
  isLoose_sameOutcome.mono (fun _ _ _ h h' => Eq.trans h' h) fun _ _ h => congrArg Prod.fst h

theorem sameCommit_setStatus (r : Response) (n : Whole) : SameCommit r (r.setStatus n) := by
  unfold setStatus
  split <;> rfl

end Response

namespace ResponseOp

open Response

/-- May an operation that gives `result` fix the outcome? What is sent must be sent successfully, but the
body may also be closed at the end of a block that fails. -/
def MayCommit (op : ResponseOp) (result : Except Fault Answer) : Prop :=
  match op with
  | .setCommitted committed => committed = true
  | .flush => True
  | .sendError _ _ | .sendRedirect _ => ∃ a, result = .ok a
  | .body op => op.closes = true
  | _ => False

/-- Only a reset changes an outcome that is fixed. -/
theorem keeps_frozen {thisYear : Int} {op : ResponseOp} (h : op ≠ .reset) :
    (op.run thisYear).Keeps Frozen := by
  intro r hr
  by_cases hl : op.leavesOutcome = true
  · exact keeps_loose isLoose_sameOutcome hl r
  cases op with
  | setStatus n => rw [run, Action.state_silently]; exact frozen_setStatus r n hr
  | setCommitted committed =>
    rw [run, Action.state_silently]
    cases committed with
    | false => rfl
    | true => simp [Response.setCommitted, commit_eq, outcome, hr]
  | flush => rw [run, Action.state_silently]; simp [commit_eq, outcome, hr]
  | reset => exact absurd rfl h
  | sendError n message => rw [run, Action.state_silently]; simp [sendError_eq, hr]
  | sendRedirect url => rw [run, Action.state_silently]; simp [sendRedirect_eq, hr]
  | assign p v =>
    rw [run, Action.state_silently]
    have loose := isLoose_sameOutcome.mono Frozen.trans fun _ _ h _ => h
    refine Action.keeps_update loose.refl (fun s s' hs => loose.assign (fun _ => ?_) hs) r hr
    exact frozen_setStatus
  | body op => rw [run, (onBody_eq _ r).1]; simp [outcome, hr]
  | _ => exact absurd rfl hl

/-- Only operations that are meant to do so commit. -/
theorem mayCommit_of_committed {thisYear : Int} {op : ResponseOp} {r : Response}
    (hr : r.committed = false) (h : (op.run thisYear r).state.committed = true) :
    op.MayCommit (op.run thisYear r).result := by
  by_cases hl : op.leavesOutcome = true
  · have same : (op.run thisYear r).state.committed = r.committed :=
      congrArg Prod.fst (keeps_loose isLoose_sameOutcome hl r)
    rw [same, hr] at h
    cases h
  cases op with
  | setStatus n => rw [run, Action.state_silently] at h; simp [Action.modify, Response.setStatus, hr] at h
  | setCommitted committed =>
    cases committed with
    | true => rfl
    | false =>
      rw [run, Action.state_silently] at h
      simp [Response.setCommitted, Action.fail, hr] at h
  | flush => trivial
  | reset =>
    rw [run, Action.state_silently] at h
    cases hl : r.config.locale with
    | ok l => rw [reset_of_locale hl] at h; cases h
    | error fault => rw [reset_of_fault hl] at h; simp [cleared, hr] at h
  | sendError n message =>
    refine ⟨.none, Action.result_silently ?_⟩
    simp [sendError_eq, hr]
  | sendRedirect url =>
    rw [run, Action.state_silently] at h
    cases url with
    | none => simp [sendRedirect_eq, hr] at h
    | some url =>
      refine ⟨.none, Action.result_silently ?_⟩
      simp [sendRedirect_eq, hr]
  | assign p v =>
    rw [run, Action.state_silently] at h
    have kept : (Action.update fun r => r.assign p v : Action Response LogRecord Unit).Keeps
        SameCommit :=
      Action.keeps_update isLoose_sameCommit.refl fun s s' hs =>
        isLoose_sameCommit.assign (fun _ => sameCommit_setStatus) hs
    rw [kept r, hr] at h
    cases h
  | body op =>
    have hc : op.closes = true := by simpa [leavesOutcome] using hl
    exact hc
  | _ => exact absurd rfl hl

end ResponseOp

/-! ## Runs -/

namespace Response

open Subject

/-- Over any run of a response, on it, through the view of hosted code, on its headers and on its body,
operations that fail included: once the outcome is fixed it stays so, with its status and message, until
the response is reset; and it is fixed only by an operation that is meant to do so. -/
theorem outcome_frozen (thisYear : Int) (r : Response) :
    (r.committed = true → ∀ steps : List ResponseStep, (∀ step ∈ steps, step.op? ≠ some .reset) →
      ((Subject.response thisYear).after steps r).committed = true ∧
        ((Subject.response thisYear).after steps r).status = r.status ∧
        ((Subject.response thisYear).after steps r).errorMessage = r.errorMessage) ∧
    (∀ step : ResponseStep, r.committed = false →
      ((Subject.response thisYear).run step r).state.committed = true →
      ∃ op, step.op? = some op ∧ op.MayCommit ((Subject.response thisYear).run step r).result) := by
  refine ⟨fun hr steps hsteps => ?_, fun step hr h => ?_⟩
  · have kept : Frozen r ((Subject.response thisYear).after steps r) := by
      refine after_induction Frozen.refl Frozen.trans (fun step hstep => ?_) r
      refine ResponseStep.performs.keeps_of_op Frozen.refl fun op hop => ?_
      have hne : op ≠ .reset := fun h => hsteps step hstep (by rw [hop, h])
      exact ResponseOp.keeps_frozen hne
    have same := kept hr
    refine ⟨(congrArg Prod.fst same).trans hr, ?_, ?_⟩
    · exact congrArg (fun o => o.2.1) same
    · exact congrArg (fun o => o.2.2) same
  · cases hop : step.op? with
    | none => rw [ResponseStep.performs.state_of_op hop, hr] at h; cases h
    | some op =>
      rw [ResponseStep.performs.run_of_op hop] at h ⊢
      exact ⟨op, rfl, ResponseOp.mayCommit_of_committed hr h⟩

/-- A status and an error come too late after a flush, which is what fixed the outcome. -/
theorem outcome_frozen_after_flush :
    let fresh := initial ⟨.empty⟩ ⟨"en", "", ""⟩ (.builtIn 4096)
    let flushed := ((Subject.response 2024).run (.inr .flush) fresh).state
    let late : List ResponseStep :=
      [.inl (.setStatus (.builtIn 404)), .inr (.sendError (.builtIn 500) (some "late"))]
    ((Subject.response 2024).after late flushed).status = .builtIn 200 ∧
      ∃ op, ResponseStep.op? (.inr .flush) = some op ∧
        op.MayCommit ((Subject.response 2024).run (.inr .flush) fresh).result := by
  intro fresh flushed late
  have fixed : flushed.committed = true := rfl
  have kept := (outcome_frozen 2024 flushed).1 fixed late (by simp [late, ResponseStep.op?,
    HostedResponseOp.passedOn])
  exact ⟨kept.2.1, (outcome_frozen 2024 fresh).2 (.inr .flush) rfl fixed⟩

end Response

end HttpExchange

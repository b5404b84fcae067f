import HttpExchange.Proofs.Response.Commit
import HttpExchange.Proofs.Response.Footprint

/-!
# The body of a committed response

When the outcome of a response is fixed, its body may still grow. It is discarded by a reset of the
response, which takes the commit back, and is not discarded by a reset of the buffer, which is refused. The
sink that hosted code writes to does not know of the commit, though: a reset of the sink itself discards
the body of any response.

## Main statements

* `ResponseOp.keeps_content`: all other operations keep the body of a committed response.
* `Response.content_kept_iff`: so the body is kept over all runs of such operations, and of no others.
-/

namespace HttpExchange

open HttpExchange.Action

/-! ## What operations do to a sink -/

namespace Sink

/-- What was written is still there, with what was written since behind it. -/
def Extends (s s' : Sink) : Prop := s.bytes <+: s'.bytes

theorem Extends.refl (s : Sink) : s.Extends s := List.prefix_rfl

theorem Extends.trans (s t u : Sink) (h : s.Extends t) (h' : t.Extends u) : s.Extends u :=
  List.IsPrefix.trans h h'

theorem keeps_write (v : Value) : (write v).Keeps Extends := by
  refine Keeps.bind Extends.trans (keeps_atomic Extends.refl fun s n s' h => ?_) fun n =>
    Keeps.bind Extends.trans Extends.refl fun _ => Keeps.bind Extends.trans Extends.refl fun _ => Extends.refl
  obtain ⟨bs, -, hbs⟩ := map_eq_ok_iff.1 h
  cases hbs
  exact List.prefix_append _ _

theorem keeps_writeAll (vs : List Value) : (writeAll vs).Keeps Extends := by
  induction vs with
  | nil => exact Extends.refl
  | cons v rest ih => exact (keeps_write v).bind Extends.trans fun _ => ih

theorem keeps_runBlock (steps : List BlockStep) : (runBlock steps).Keeps Extends := by
  induction steps with
  | nil => exact Extends.refl
  | cons step rest ih =>
    cases step with
    | write v => exact (keeps_write v).bind Extends.trans fun _ => ih
    | interrupt fault => exact Extends.refl

end Sink

/-- Only a reset discards what was written to a sink. -/
theorem SinkOp.keeps_extends {op : SinkOp} (h : op ≠ .reset) : op.run.Keeps Sink.Extends := by
  cases op with
  | write v => exact (Sink.keeps_write v).bind Sink.Extends.trans fun _ => Sink.Extends.refl
  | writeLines v =>
    refine Keeps.bind Sink.Extends.trans Sink.Extends.refl fun lines => ?_
    exact (Sink.keeps_writeAll lines).bind Sink.Extends.trans fun _ => Sink.Extends.refl
  | block steps =>
    have closed : (Sink.block steps).Keeps Sink.Extends :=
      (Sink.keeps_runBlock steps).ensuring Sink.Extends.trans Sink.Extends.refl
    exact closed.bind Sink.Extends.trans fun _ => Sink.Extends.refl
  | reset => exact absurd rfl h
  | _ => exact Sink.Extends.refl

/-! ## What operations do to the body -/

namespace Response

/-- A response that is committed stays so, and its body is kept. -/
def ContentKept (r r' : Response) : Prop :=
  r.committed = true → r'.committed = true ∧ r.body.Extends r'.body

theorem ContentKept.refl (r : Response) : ContentKept r r := fun h => ⟨h, .refl _⟩

theorem ContentKept.trans (r s t : Response) (h : ContentKept r s) (h' : ContentKept s t) :
    ContentKept r t := by
  intro hr
  obtain ⟨hs, first⟩ := h hr
  obtain ⟨ht, second⟩ := h' hs
  exact ⟨ht, first.trans _ _ _ second⟩

def BodyExtends (r r' : Response) : Prop := r.body.Extends r'.body

theorem BodyExtends.refl (r : Response) : BodyExtends r r := Sink.Extends.refl _

theorem BodyExtends.trans (r s t : Response) (h : BodyExtends r s) (h' : BodyExtends s t) :
    BodyExtends r t :=
  Sink.Extends.trans _ _ _ h h'

theorem keeps_onBody_extends {α : Type} {x : Action Sink SinkEvent α} (h : x.Keeps Sink.Extends) :
    (onBody x).Keeps BodyExtends := by
  intro r
  unfold BodyExtends
  rw [(onBody_eq x r).1]
  exact h r.body

theorem keeps_write_extends (v : Value) : (write v).Keeps BodyExtends := by
  have put (w : Value) : (onBody (Sink.write w)).Keeps BodyExtends :=
    keeps_onBody_extends (Sink.keeps_write w)
  refine Keeps.bind BodyExtends.trans BodyExtends.refl fun r => ?_
  split
  · exact Keeps.bind BodyExtends.trans BodyExtends.refl fun name =>
      Keeps.bind BodyExtends.trans BodyExtends.refl fun bs => put _
  · exact put _

end Response

open Response in
/-- Of all operations, a reset of the response and one of its sink are the only ones that discard the body
of a committed response. -/
theorem ResponseOp.keeps_content {thisYear : Int} {op : ResponseOp} (hreset : op ≠ .reset)
    (hsink : op ≠ .body .reset) : (op.run thisYear).Keeps ContentKept := by
  intro r hr
  refine ⟨(congrArg Prod.fst (keeps_frozen hreset r hr)).trans hr, ?_⟩
  have apart (h : .body ∉ op.footprint) : r.body.Extends (op.run thisYear r).state.body := by
    rw [(op.keeps_sameApart r).same .body h]
    exact .refl _
  cases op with
  | reset => exact absurd rfl hreset
  | resetBuffer =>
    -- The footprint has the body in it, but the commit is looked at first.
    rw [run, state_silently]
    have refused : r.resetBuffer = .error .resetAfterCommit := by simp [Response.resetBuffer, hr]
    simp only [Action.update, Action.atomic, refused, Except.map]
    exact .refl _
  | write v =>
    have kept : (run thisYear (.write v)).Keeps BodyExtends :=
      (keeps_write_extends v).bind BodyExtends.trans fun _ => BodyExtends.refl
    exact kept r
  | body op =>
    exact keeps_onBody_extends (SinkOp.keeps_extends fun h => hsink (congrArg ResponseOp.body h)) r
  | headers op => exact apart (by rw [footprint]; split <;> simp)
  | assign p v => exact apart (by cases p <;> simp [footprint])
  | _ => exact apart (by simp [footprint])

/-! ## Runs -/

namespace Response

open Subject

/-- A reset of the response and one of its sink discard the body, whether the outcome is fixed or not. -/
theorem body_eq_empty_of_reset {thisYear : Int} {step : ResponseStep}
    (h : step.op? = some .reset ∨ step.op? = some (.body .reset)) (r : Response) :
    ((Subject.response thisYear).run step r).state.body = .empty := by
  rcases h with h | h
  · rw [ResponseStep.performs.run_of_op h, ResponseOp.run, state_silently]
    cases hl : r.config.locale with
    | ok l => rw [reset_of_locale hl]; rfl
    | error fault => rw [reset_of_fault hl]; rfl
  · rw [ResponseStep.performs.run_of_op h, ResponseOp.run, (onBody_eq _ r).1]
    rfl

theorem exists_committed_content (thisYear : Int) :
    ∃ r, Reachable thisYear r ∧ r.committed = true ∧ r.body.bytes ≠ [] := by
  obtain ⟨response, hresponse⟩ : ∃ r, new ⟨.empty⟩ = .ok r := ⟨_, rfl⟩
  have made : Reachable thisYear response := .start ⟨⟨.empty⟩, hresponse⟩
  refine ⟨_, Subject.Reachable.after made [.inl (.write (.ofBytes [104, 105])), .inr .flush], ?_, ?_⟩
  · cases hresponse
    rfl
  · cases hresponse
    exact List.cons_ne_nil 104 [105]

/-- What a response holds when its outcome is fixed stays at the beginning of its body, over all runs of
operations of some kinds, if and only if these kinds include neither a reset of the response nor one of the
sink that hosted code writes to. -/
theorem content_kept_iff (thisYear : Int) (allowed : ResponseStep → Prop) :
    (∀ r, Reachable thisYear r → r.committed = true → ∀ steps : List ResponseStep,
      (∀ step ∈ steps, allowed step) →
      r.body.bytes <+: ((Subject.response thisYear).after steps r).body.bytes) ↔
    ∀ step, allowed step → step.op? ≠ some .reset ∧ step.op? ≠ some (.body .reset) := by
  constructor
  · intro kept step hstep
    rw [← not_or]
    intro hreset
    -- One such step is enough to lose a body that there is.
    obtain ⟨r, hr, hcommitted, hbody⟩ := exists_committed_content thisYear
    have still := kept r hr hcommitted [step] (List.forall_mem_singleton.2 hstep)
    rw [after, List.foldl_cons, List.foldl_nil, body_eq_empty_of_reset hreset r] at still
    exact hbody (List.prefix_nil.1 still)
  · intro hallowed r _ hr steps hsteps
    have kept : ContentKept r ((Subject.response thisYear).after steps r) := by
      refine after_induction ContentKept.refl ContentKept.trans (fun step hstep => ?_) r
      obtain ⟨hreset, hsink⟩ := hallowed step (hsteps step hstep)
      refine ResponseStep.performs.keeps_of_op ContentKept.refl fun op hop => ?_
      rw [hop] at hreset hsink
      exact ResponseOp.keeps_content (fun h => hreset (congrArg some h)) (fun h => hsink (congrArg some h))
    exact (kept hr).2

/-- Two bytes are written, the response is flushed, and hosted code resets the sink: the response is still
committed, and its body is lost. -/
theorem content_lost_by_reset_of_sink :
    ∃ fresh, new ⟨.empty⟩ = .ok fresh ∧
      let written : List ResponseStep := [.inl (.write (.ofBytes [104, 105])), .inr .flush]
      let r := (Subject.response 2024).after written fresh
      let s := (Subject.response 2024).after [.inl (.body .reset)] r
      Reachable 2024 r ∧ r.committed = true ∧ s.committed = true ∧
        r.body.bytes = [104, 105] ∧ s.body.bytes = [] ∧ ¬ r.body.bytes <+: s.body.bytes := by
  refine ⟨_, rfl, ?_⟩
  intro written r s
  have reached : Reachable 2024 r := Subject.Reachable.after (.start ⟨⟨.empty⟩, rfl⟩) written
  have before : r.body.bytes = [104, 105] := rfl
  have behind : s.body.bytes = [] := rfl
  refine ⟨reached, rfl, rfl, before, behind, ?_⟩
  rw [before, behind, List.prefix_nil]
  exact List.cons_ne_nil _ _

end Response

end HttpExchange

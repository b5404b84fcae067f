import Mathlib.Data.List.Forall2
import HttpExchange.Proofs.Response.Step

/-!
# A response that was reset

A reset leaves nothing of what was done to a response before, apart from its buffer size and from the list
that holds its cookies, which is emptied and goes on being the list that it was. No operation looks at which
list that is; it only shows when the list itself is asked for. So whatever is done afterwards gives the
same answers, reports and states as on a new response with that buffer size.

## Main statements

* `ResponseOp.alike_run`: operations do the same to responses that differ in their lists of cookies only.
* `Response.reset_eq_of_new`: what a reset leaves and reports.
* `Response.reset_gives_fresh`: from there on the response goes on like a new one.
-/

namespace HttpExchange

open HttpExchange.Action

/-! ## Lists of cookies -/

namespace Response

/-- The response with its cookies in another list, the one that the mark tells. -/
def inList (m : Mark) (r : Response) : Response := { r with cookies := ⟨m, r.cookies.content⟩ }

/-- The action does not look at which list holds the cookies, and leaves that list in its place. -/
def IgnoresList {α : Type} (x : Action Response LogRecord α) : Prop :=
  ∀ m r, x (r.inList m) = ⟨(x r).state.inList m, (x r).events, (x r).result⟩

section IgnoresList

variable {α β : Type}

theorem ignoresList_pure (a : α) : IgnoresList (pure a) := fun _ _ => rfl

theorem ignoresList_fail (fault : Fault) : IgnoresList (Action.fail fault : Action Response LogRecord α) :=
  fun _ _ => rfl

theorem ignoresList_emit (e : LogRecord) : IgnoresList (Action.emit e) := fun _ _ => rfl

theorem ignoresList_query {f : Response → Except Fault α} (h : ∀ m r, f (r.inList m) = f r) :
    IgnoresList (Action.query f) := by
  intro m r
  simp only [Action.query, h]

theorem ignoresList_modify {f : Response → Response} (h : ∀ m r, f (r.inList m) = (f r).inList m) :
    IgnoresList (Action.modify f) := by
  intro m r
  simp only [Action.modify, h]

theorem ignoresList_update {f : Response → Except Fault Response}
    (h : ∀ m r, f (r.inList m) = (f r).map (inList m)) : IgnoresList (Action.update f) := by
  intro m r
  simp only [Action.update, Action.atomic, h]
  cases f r <;> rfl

theorem IgnoresList.bind {x : Action Response LogRecord α} {f : α → Action Response LogRecord β}
    (hx : IgnoresList x) (hf : ∀ a, IgnoresList (f a)) : IgnoresList (x >>= f) := by
  intro m r
  have first := hx m r
  cases h : (x r).result with
  | error fault =>
    have failed : (x (r.inList m)).result = .error fault := by rw [first]; exact h
    rw [bind_of_error failed, bind_of_error h, first]
  | ok a =>
    have done : (x (r.inList m)).result = .ok a := by rw [first]; exact h
    rw [bind_of_ok done, bind_of_ok h, first, hf a m]

/-- What is done with the response at hand must not depend on the list either. -/
theorem ignoresList_get {f : Response → Action Response LogRecord α} (same : ∀ m r, f (r.inList m) = f r)
    (h : ∀ r, IgnoresList (f r)) : IgnoresList (Action.get >>= f) := by
  intro m r
  rw [bind_of_ok (x := Action.get) rfl, bind_of_ok (x := Action.get) rfl]
  simp only [Action.get, same, h r m]

end IgnoresList

/-! ## What operations do with the list -/

theorem inList_setStatus (n : Whole) (m : Mark) (r : Response) :
    (r.inList m).setStatus n = (r.setStatus n).inList m := by
  unfold setStatus
  cases h : r.committed <;> simp [inList, h]

theorem inList_writeHeader (name : String) (v : Value) (replace : Bool) (m : Mark) (r : Response) :
    (r.inList m).writeHeader name v replace = (r.writeHeader name v replace).inList m := by
  unfold writeHeader
  cases v <;> rfl

theorem inList_syncContentType (m : Mark) (r : Response) :
    (r.inList m).syncContentType = r.syncContentType.inList m := by
  unfold syncContentType
  cases h : r.contentType <;> simp [inList, h, encodingName]

theorem inList_adoptCharset (ct : String) (m : Mark) (r : Response) :
    (r.inList m).adoptCharset ct = (r.adoptCharset ct).inList m := by
  unfold adoptCharset
  split
  · split <;> rfl
  · rfl

theorem inList_setContentType (ct : Option String) (m : Mark) (r : Response) :
    (r.inList m).setContentType ct = (r.setContentType ct).inList m := by
  cases ct with
  | none => rfl
  | some ct =>
    unfold setContentType
    rw [← inList_syncContentType, ← inList_adoptCharset]
    rfl

theorem inList_setEncoding (encoding : Option String) (m : Mark) (r : Response) :
    (r.inList m).setEncoding encoding = (r.setEncoding encoding).map (inList m) := by
  cases encoding with
  | none => rfl
  | some encoding =>
    have encoded := inList_syncContentType m { r with encoding := some (.ofText .encoding encoding) }
    exact congrArg Except.ok encoded

theorem inList_setLocale (locale : Option Locale) (m : Mark) (r : Response) :
    (r.inList m).setLocale locale = (r.setLocale locale).inList m := by
  cases locale <;> rfl

/-- What is written into a header may have to be computed first. -/
theorem inList_writeResult {α : Type} (x : Except Fault α) (valueOf : α → Value) (name : String) (replace : Bool)
    (m : Mark) (r : Response) : (x.map fun a => (r.inList m).writeHeader name (valueOf a) replace) =
      (x.map fun a => r.writeHeader name (valueOf a) replace).map (inList m) := by
  cases x with
  | error fault => rfl
  | ok a => exact congrArg Except.ok (inList_writeHeader ..)

theorem inList_assign {p : ResponseProperty} (hp : p ≠ .cookies) (v : Value) (m : Mark) (r : Response) :
    (r.inList m).assign p v = (r.assign p v).map (inList m) := by
  unfold assign
  split
  · cases Value.requireWhole _ with
    | error fault => rfl
    | ok n => exact congrArg Except.ok (inList_setStatus n m r)
  · rfl
  · exact congrArg Except.ok (inList_setContentType _ m r)
  · rfl
  · exact inList_setEncoding _ m r
  · cases Value.requireWhole _ <;> rfl
  · exact absurd rfl hp
  all_goals rfl

theorem ignoresList_commit : IgnoresList commit := by
  refine ignoresList_get (fun _ _ => rfl) fun r => ?_
  have fixed : IgnoresList (Action.modify fun r : Response => { r with committed := true }) :=
    ignoresList_modify fun _ _ => rfl
  dsimp only
  split
  · exact (ignoresList_emit _).bind fun _ => fixed
  · exact fixed

theorem ignoresList_sendError (status : Whole) (message : Option String) :
    IgnoresList (sendError status message) := by
  refine ignoresList_get (fun _ _ => rfl) fun r => ?_
  split
  · exact ignoresList_fail _
  · exact (ignoresList_modify fun _ _ => rfl).bind fun _ =>
      (ignoresList_emit _).bind fun _ => ignoresList_commit

theorem ignoresList_sendRedirect (url : Option String) : IgnoresList (sendRedirect url) := by
  refine ignoresList_get (fun _ _ => rfl) fun r => ?_
  split
  · exact ignoresList_fail _
  · cases url with
    | none => exact ignoresList_fail _
    | some url =>
      exact (ignoresList_modify fun _ _ => rfl).bind fun _ =>
        (ignoresList_emit _).bind fun _ => ignoresList_commit

theorem ignoresList_reset : IgnoresList reset := by
  refine (ignoresList_modify fun _ _ => rfl).bind fun _ =>
    (ignoresList_update fun m r => ?_).bind fun _ => ignoresList_emit _
  change (r.config.locale.map _) = _
  cases r.config.locale <;> rfl

theorem ignoresList_onSinkEvents (events : List SinkEvent) : IgnoresList (onSinkEvents events) := by
  induction events with
  | nil => exact ignoresList_pure _
  | cons e rest ih =>
    refine IgnoresList.bind ?_ fun _ => ih
    cases e with
    | closed => exact ignoresList_commit
    | written size =>
      refine ignoresList_get (fun _ _ => rfl) fun r => ?_
      split
      · exact ignoresList_emit _
      · exact ignoresList_pure _

theorem ignoresList_onBody {α : Type} (x : Action Sink SinkEvent α) : IgnoresList (onBody x) := by
  intro m r
  have told := ignoresList_onSinkEvents (x r.body).events m { r with body := (x r.body).state }
  unfold onBody
  exact congrArg (fun o : Outcome Response LogRecord Unit => Outcome.mk o.state o.events (x r.body).result) told

theorem ignoresList_write (v : Value) : IgnoresList (write v) := by
  refine ignoresList_get (fun _ _ => rfl) fun r => ?_
  split
  · exact (ignoresList_query fun _ _ => rfl).bind fun name =>
      (ignoresList_query fun _ _ => rfl).bind fun bs => ignoresList_onBody _
  · exact ignoresList_onBody _

end Response

namespace ResponseOp

open Response

/-- Does an operation ask for the list of cookies, or put another one in its place? -/
def concernsList : ResponseOp → Bool
  | .read .cookies | .assign .cookies _ => true
  | _ => false

theorem ignoresList_run {thisYear : Int} {op : ResponseOp} (h : op.concernsList = false) :
    IgnoresList (op.run thisYear) := by
  have silent {x : Action Response LogRecord Unit} (hx : IgnoresList x) : IgnoresList (silently x) :=
    hx.bind fun _ => ignoresList_pure _
  have headers (op : HeadersOp) : IgnoresList (runHeaders thisYear op) := fun _ _ => rfl
  cases op with
  | setStatus n => exact silent (ignoresList_modify (inList_setStatus n))
  | setCommitted committed =>
    cases committed with
    | false => exact silent (ignoresList_fail _)
    | true => exact silent ignoresList_commit
  | flush => exact silent ignoresList_commit
  | resetBuffer =>
    refine silent (ignoresList_update fun m r => ?_)
    unfold Response.resetBuffer
    cases h : r.committed <;> simp [inList, h, Except.map]
  | reset => exact silent ignoresList_reset
  | sendError n message => exact silent (ignoresList_sendError n message)
  | sendRedirect url => exact silent (ignoresList_sendRedirect url)
  | encodeUrl | getSink => exact ignoresList_pure _
  | setHeader name v => exact silent (ignoresList_modify (inList_writeHeader name v true))
  | addHeader name v => exact silent (ignoresList_modify (inList_writeHeader name v false))
  | setIntHeader name v => exact silent (ignoresList_update (inList_writeResult v.toInteger _ name true))
  | addIntHeader name v => exact silent (ignoresList_update (inList_writeResult v.toInteger _ name false))
  | setDateHeader name v => exact silent (ignoresList_update (inList_writeResult (HttpDate.write v) _ name true))
  | addDateHeader name v => exact silent (ignoresList_update (inList_writeResult (HttpDate.write v) _ name false))
  | hasHeader | header | headerTexts | headerNames | headerValue | headerValues => exact headers _
  | headerDate | contentText | literal => exact ignoresList_query fun _ _ => rfl
  | setContentType ct => exact silent (ignoresList_modify (inList_setContentType ct))
  | setEncoding e => exact silent (ignoresList_update (inList_setEncoding e))
  | setLocale l => exact silent (ignoresList_modify (inList_setLocale l))
  | write v => exact (ignoresList_write v).bind fun _ => ignoresList_pure _
  | addCookie cookie => exact silent (ignoresList_modify fun _ _ => rfl)
  | read p =>
    refine ignoresList_query fun m r => ?_
    cases p with
    | cookies => cases h
    | _ => rfl
  | assign p v =>
    refine silent (ignoresList_update (inList_assign (fun hp => ?_) v))
    subst hp
    cases h
  | config op => exact fun _ _ => rfl
  | headers op => exact headers op
  | body op => exact ignoresList_onBody op.run

end ResponseOp

/-! ## The same up to the list of cookies -/

/-- The results are the same, or they are lists with the same items. -/
def AlikeResult (a b : Except Fault Answer) : Prop :=
  a = b ∨ ∃ m n items, a = .ok (.value (.list m items)) ∧ b = .ok (.value (.list n items))

/-- What is left behind is the same, up to which lists hold the cookies. -/
structure AlikeOutcome (o o' : Outcome Response LogRecord Answer) : Prop where
  state : ∃ m, o'.state = o.state.inList m
  events : o'.events = o.events
  result : AlikeResult o.result o'.result

theorem Response.IgnoresList.alike {x : Action Response LogRecord Answer} (h : IgnoresList x) (m : Mark)
    (r : Response) : AlikeOutcome (x r) (x (r.inList m)) := by
  have same := h m r
  exact ⟨⟨m, by rw [same]⟩, by rw [same], .inl (by rw [same])⟩

theorem ResponseOp.alike_run {thisYear : Int} (op : ResponseOp) (m : Mark) (r : Response) :
    AlikeOutcome (op.run thisYear r) (op.run thisYear (r.inList m)) := by
  by_cases h : op.concernsList = true
  · cases op with
    | read p =>
      cases p with
      | cookies => exact ⟨⟨m, rfl⟩, rfl, .inr ⟨_, _, _, rfl, rfl⟩⟩
      | _ => cases h
    | assign p v =>
      cases p with
      | cookies =>
        cases v with
        | list k items => exact ⟨⟨k, rfl⟩, rfl, .inl rfl⟩
        | _ => exact ⟨⟨m, rfl⟩, rfl, .inl rfl⟩
      | _ => cases h
    | _ => cases h
  · exact (ignoresList_run (by simpa using h)).alike m r

namespace Subject

theorem ResponseStep.alike_run {thisYear : Int} (step : ResponseStep) (m : Mark) (r : Response) :
    AlikeOutcome ((Subject.response thisYear).run step r)
      ((Subject.response thisYear).run step (r.inList m)) := by
  cases hop : step.op? with
  | some op =>
    rw [ResponseStep.performs.run_of_op hop]
    exact op.alike_run m r
  | none =>
    cases step with
    | inl op => cases hop
    | inr op => cases op <;> cases hop <;> exact ⟨⟨m, rfl⟩, rfl, .inl rfl⟩

end Subject

namespace Response

/-- Whatever is done to both responses, one step after another, each step leaves the same behind. -/
def GoOnAlike (thisYear : Int) (r r' : Response) : Prop :=
  ∀ steps, List.Forall₂ AlikeOutcome ((Subject.response thisYear).outcomes steps r)
    ((Subject.response thisYear).outcomes steps r')

theorem goOnAlike_inList (thisYear : Int) (m : Mark) (r : Response) :
    GoOnAlike thisYear r (r.inList m) := by
  intro steps
  -- The mark is general since a step may put the same list in the place of both.
  induction steps generalizing m r with
  | nil => exact .nil
  | cons step rest ih =>
    have first : AlikeOutcome ((Subject.response thisYear).run step r)
        ((Subject.response thisYear).run step (r.inList m)) := step.alike_run m r
    obtain ⟨k, next⟩ := first.state
    refine .cons first ?_
    rw [next]
    exact ih k _

/-! ## Resets -/

/-- A reset leaves a new response, but with the buffer size and the list of the old one. -/
theorem reset_eq_of_new {r fresh : Response} (h : new r.config = .ok fresh) :
    reset r =
      ⟨{ fresh with bufferSize := r.bufferSize }.inList r.cookies.mark, [.reset], .ok ()⟩ := by
  obtain ⟨l, n, hl, rfl⟩ := exists_initial_of_new h
  exact reset_of_locale hl

theorem requireWhole_value (n : Whole) : n.value.requireWhole = .ok n := by
  cases n <;> rfl

/-- All that a response shows is what another one shows, apart from its buffer size. -/
structure LooksLike (r r' : Response) : Prop where
  read : ∀ p, p ≠ .bufferSize → AlikeResult (r'.read p) (r.read p)
  headers : r.headers = r'.headers
  contentText : ∀ fallback, r.contentText fallback = r'.contentText fallback

theorem looksLike_inList (n : Whole) (m : Mark) (r : Response) :
    LooksLike ({ r with bufferSize := n }.inList m) r where
  read p hp := by
    cases p with
    | bufferSize => exact absurd rfl hp
    | cookies => exact .inr ⟨_, _, _, rfl, rfl⟩
    | _ => exact .inl rfl
  headers := rfl
  contentText _ := rfl

/-- A reset never fails, and it leaves a response that shows what a new one shows and goes on like a new one
whose buffer size was set. -/
theorem reset_gives_fresh (thisYear : Int) {r : Response} (h : Reachable thisYear r) :
    ∃ fresh, new r.config = .ok fresh ∧ ∀ step : Subject.ResponseStep, step.op? = some .reset →
      let o := (Subject.response thisYear).run step r
      let sized := (Subject.response thisYear).after [.inl (.assign .bufferSize r.bufferSize.value)] fresh
      o.result = .ok .none ∧ o.events = [.reset] ∧ LooksLike o.state fresh ∧
        o.state.bufferSize = r.bufferSize ∧ GoOnAlike thisYear sized o.state := by
  obtain ⟨fresh, hfresh⟩ := h.exists_new
  refine ⟨fresh, hfresh, fun step hstep => ?_⟩
  intro o sized
  have hsized : sized = { fresh with bufferSize := r.bufferSize } := by
    have taken : fresh.assign .bufferSize r.bufferSize.value =
        .ok { fresh with bufferSize := r.bufferSize } := by
      simp [assign, requireWhole_value, Except.map]
    change (silently (.update fun r' => r'.assign .bufferSize r.bufferSize.value) fresh).state = _
    rw [silently, Action.update_bind_of_ok taken]
    rfl
  have ho : o = ⟨{ fresh with bufferSize := r.bufferSize }.inList r.cookies.mark, [.reset], .ok .none⟩ := by
    have done := reset_eq_of_new hfresh
    change (Subject.response thisYear).run step r = _
    rw [Subject.ResponseStep.performs.run_of_op hstep, ResponseOp.run, silently,
      Action.bind_of_ok (a := ()) (by rw [done]), done]
    rfl
  rw [ho, hsized]
  exact ⟨rfl, rfl, looksLike_inList .., rfl, goOnAlike_inList thisYear _ _⟩

/-- A redirected response with a body, a cookie and another buffer size, reset by hosted code. -/
theorem reset_of_redirected_gives_fresh :
    ∃ fresh, new ⟨.empty⟩ = .ok fresh ∧
      let steps : List Subject.ResponseStep :=
        [.inl (.write (.ofBytes [104, 105])), .inl (.addCookie (.ofText "id=7")),
          .inr (.setBufferSize (.ofInt 16)), .inr (.sendRedirect (some "/home"))]
      let r := (Subject.response 2024).after steps fresh
      let s := ((Subject.response 2024).run (.inr .reset) r).state
      r.committed = true ∧ r.body.bytes = [104, 105] ∧ LooksLike s fresh ∧ s.bufferSize.toInt = 16 ∧
        GoOnAlike 2024 ((Subject.response 2024).after [.inl (.assign .bufferSize r.bufferSize.value)] fresh)
          s := by
  refine ⟨_, rfl, ?_⟩
  intro steps r s
  have reached : Reachable 2024 r := Subject.Reachable.after (.start ⟨⟨.empty⟩, rfl⟩) steps
  obtain ⟨fresh, hfresh, h⟩ := reset_gives_fresh 2024 reached
  obtain ⟨-, -, looks, size, goes⟩ := h (.inr .reset) rfl
  have config : r.config = ⟨.empty⟩ := rfl
  rw [config] at hfresh
  cases hfresh
  exact ⟨rfl, rfl, looks, by rw [size]; rfl, goes⟩

end Response

end HttpExchange

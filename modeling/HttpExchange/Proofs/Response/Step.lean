import HttpExchange.Proofs.Config
import HttpExchange.Proofs.Headers
import HttpExchange.Session.Subject

/-!
# Steps of a response

What the operations of a response that consist of several steps leave behind, in closed form, and to which
operation each one of hosted code amounts.
-/

namespace HttpExchange

namespace Response

variable {α : Type}

/-! ## Fixing the outcome -/

theorem commit_eq (r : Response) :
    commit r = ⟨{ r with committed := true },
      if r.committed then [] else [.committed r.status.toInt], .ok ()⟩ := by
  cases h : r.committed <;>
    simp [commit, Action.get, Action.emit, Action.modify, h, bind, Action.bind]

theorem sendError_eq (status : Whole) (message : Option String) (r : Response) :
    sendError status message r =
      if r.committed then ⟨r, [], .error .errorAfterCommit⟩
      else ⟨{ r with
          status, committed := true
          errorMessage := (message.map (Thing.ofText .message)).or r.errorMessage },
        [.sendingError status.toInt message, .committed status.toInt], .ok ()⟩ := by
  cases h : r.committed <;>
    simp [sendError, commit_eq, Action.get, Action.emit, Action.modify, Action.fail, h, bind,
      Action.bind]

theorem sendRedirect_eq (url : Option String) (r : Response) :
    sendRedirect url r =
      if r.committed then ⟨r, [], .error .redirectAfterCommit⟩
      else match url with
        | none => ⟨r, [], .error .redirectMissing⟩
        | some url => ⟨{ r with
            headers := r.headers.putUnique locationHeader ((Value.ofText url).owned .header)
            status := .builtIn statusFound, committed := true },
          [.redirecting url, .committed statusFound], .ok ()⟩ := by
  cases h : r.committed <;> cases url <;>
    simp [sendRedirect, commit_eq, Action.get, Action.emit, Action.modify, Action.fail, h, bind,
      Action.bind]

/-- Where the configuration names a locale, a reset returns to the beginning. -/
theorem reset_of_locale {r : Response} {l : Locale} (h : r.config.locale = .ok l) :
    reset r = ⟨{ initial r.config l r.bufferSize with cookies := ⟨r.cookies.mark, []⟩ },
      [.reset], .ok ()⟩ := by
  simp [reset, cleared, initial, Action.modify, Action.update, Action.atomic, Action.emit, h, bind,
    Action.bind, Except.map]

/-- Where the configuration names no locale, a reset fails when all else is done. -/
theorem reset_of_fault {r : Response} {fault : Fault} (h : r.config.locale = .error fault) :
    reset r = ⟨r.cleared, [], .error fault⟩ := by
  simp [reset, cleared, initial, Action.modify, Action.update, Action.atomic, h, bind, Action.bind,
    Except.map]

/-! ## The body -/

/-- The owner of the body commits when it is told of a close, and that is all that it does. -/
theorem onSinkEvents_eq (events : List SinkEvent) (r : Response) :
    (onSinkEvents events r).state =
        { r with committed := r.committed || decide (SinkEvent.closed ∈ events) } ∧
      (onSinkEvents events r).result = .ok () := by
  induction events generalizing r with
  | nil => simp [onSinkEvents, pure, Action.pure]
  | cons e rest ih =>
    have first : (onSinkEvent e r).result = .ok () ∧
        (onSinkEvent e r).state = { r with committed := r.committed || decide (e = .closed) } := by
      cases e with
      | closed => simp [onSinkEvent, commit_eq]
      | written size =>
        simp only [onSinkEvent, bind, Action.bind, Action.get]
        split <;> simp [Action.emit, pure, Action.pure]
    have step : onSinkEvents (e :: rest) r = (onSinkEvent e >>= fun _ => onSinkEvents rest) r := rfl
    rw [step, Action.bind_of_ok first.1, first.2]
    simp only [ih, and_true, Bool.or_assoc, List.mem_cons, Bool.decide_or, eq_comm]

theorem onBody_eq (x : Action Sink SinkEvent α) (r : Response) :
    (onBody x r).state =
        { r with
          body := (x r.body).state
          committed := r.committed || decide (SinkEvent.closed ∈ (x r.body).events) } ∧
      (onBody x r).result = (x r.body).result :=
  ⟨(onSinkEvents_eq _ _).1, rfl⟩

end Response

/-! ## Writes do not close -/

/-- What the owner of a sink is told tells of a write. -/
def SinkEvent.IsWrite (e : SinkEvent) : Prop := ∃ size, e = .written size

theorem Sink.emits_write (v : Value) : (Sink.write v).Emits SinkEvent.IsWrite := by
  intro s e he
  unfold Sink.write Action.atomic at he
  cases h : Sink.bytesOf v <;>
    simp [h, bind, Action.bind, Except.map, Action.get, Action.emit, pure, Action.pure] at he
  exact ⟨_, he⟩

theorem Sink.emits_writeAll (vs : List Value) : (Sink.writeAll vs).Emits SinkEvent.IsWrite := by
  induction vs with
  | nil => intro s e he; cases he
  | cons v rest ih => exact (Sink.emits_write v).bind fun _ => ih

/-- Does an operation on the body close it? Leaving a block does. -/
def SinkOp.closes : SinkOp → Bool
  | .close | .block _ => true
  | _ => false

theorem SinkOp.emits_run {op : SinkOp} (h : op.closes = false) : op.run.Emits SinkEvent.IsWrite := by
  have quiet {α : Type} (a : α) : (pure a : Action Sink SinkEvent α).Emits SinkEvent.IsWrite := by
    intro s e he; cases he
  cases op with
  | write v => exact (Sink.emits_write v).bind fun _ => quiet _
  | writeLines v =>
    have asked : (Action.query fun _ => v.requireItems : Action Sink SinkEvent _).Emits
        SinkEvent.IsWrite := by
      intro s e he; cases he
    exact asked.bind fun lines => (Sink.emits_writeAll lines).bind fun _ => quiet _
  | block steps => cases h
  | close => cases h
  | _ => intro s e he; cases he

/-! ## What operations may change -/

namespace Response

/-- An action on the body changes nothing else unless the body tells of a close. -/
theorem state_onBody_of_writes {α : Type} {x : Action Sink SinkEvent α}
    (h : x.Emits SinkEvent.IsWrite) (r : Response) :
    (onBody x r).state = { r with body := (x r.body).state } := by
  have not_closed : SinkEvent.closed ∉ (x r.body).events := by
    intro he
    obtain ⟨size, hsize⟩ := h r.body _ he
    cases hsize
  rw [(onBody_eq x r).1]
  simp [not_closed]

/-- A relation between responses that every change of the headers, the body, the content type, the
encoding, the locale, the buffer size and the cookies keeps. -/
structure IsLoose (R : Response → Response → Prop) : Prop where
  refl : ∀ r, R r r
  trans : ∀ r s t, R r s → R s t → R r t
  headers : ∀ r h, R r { r with headers := h }
  body : ∀ r b, R r { r with body := b }
  contentType : ∀ r ct, R r { r with contentType := ct }
  encoding : ∀ r e, R r { r with encoding := e }
  locale : ∀ r l, R r { r with locale := l }
  bufferSize : ∀ r n, R r { r with bufferSize := n }
  cookies : ∀ r cs, R r { r with cookies := cs }

namespace IsLoose

variable {R : Response → Response → Prop} (hR : IsLoose R)

include hR

/-- What a relation says, a weaker one says as well. -/
theorem mono {S : Response → Response → Prop} (trans : ∀ r s t, S r s → S s t → S r t)
    (h : ∀ r r', R r r' → S r r') : IsLoose S where
  refl r := h _ _ (hR.refl r)
  trans := trans
  headers r x := h _ _ (hR.headers r x)
  body r x := h _ _ (hR.body r x)
  contentType r x := h _ _ (hR.contentType r x)
  encoding r x := h _ _ (hR.encoding r x)
  locale r x := h _ _ (hR.locale r x)
  bufferSize r x := h _ _ (hR.bufferSize r x)
  cookies r x := h _ _ (hR.cookies r x)

theorem writeHeader (name : String) (v : Value) (replace : Bool) (r : Response) :
    R r (r.writeHeader name v replace) := by
  unfold Response.writeHeader
  split
  · exact hR.refl r
  · exact hR.headers r _

theorem syncContentType (r : Response) : R r r.syncContentType := by
  unfold Response.syncContentType
  split
  · exact hR.refl r
  · next ct _ =>
    have renewed := hR.contentType r (some (ContentType.renew ct r.encodingName))
    exact hR.trans _ _ _ renewed (hR.headers _ _)

theorem adoptCharset (contentType : String) (r : Response) : R r (r.adoptCharset contentType) := by
  unfold Response.adoptCharset
  split
  · split
    · exact hR.refl r
    · exact hR.encoding r _
  · exact hR.refl r

theorem setContentType (contentType : Option String) (r : Response) :
    R r (r.setContentType contentType) := by
  cases contentType with
  | none => exact hR.contentType r none
  | some ct =>
    refine hR.trans _ _ _ (hR.contentType r (some (.ofText .contentType ct))) ?_
    exact hR.trans _ _ _ (hR.adoptCharset ct _) (hR.syncContentType _)

theorem setEncoding {encoding : Option String} {r r' : Response}
    (h : r.setEncoding encoding = .ok r') : R r r' := by
  cases encoding with
  | none => cases h
  | some e => cases h; exact hR.trans _ _ _ (hR.encoding r _) (hR.syncContentType _)

theorem setLocale (locale : Option Locale) (r : Response) : R r (r.setLocale locale) := by
  cases locale with
  | none => exact hR.refl r
  | some l =>
    have moved := hR.locale r ⟨.own (.locale 0), l⟩
    exact hR.trans _ _ _ moved (hR.headers _ _)

/-- Of all properties that can be assigned, the status is the only one that belongs to the outcome. -/
theorem assign {p : ResponseProperty} (hp : p = .status → ∀ r n, R r (r.setStatus n)) {v : Value}
    {r r' : Response} (h : r.assign p v = .ok r') : R r r' := by
  unfold Response.assign at h
  split at h
  · obtain ⟨n, -, rfl⟩ := map_eq_ok_iff.1 h
    exact hp rfl r n
  · cases h; exact hR.contentType r none
  · cases h; exact hR.setContentType _ r
  · cases h
  · exact hR.setEncoding h
  · obtain ⟨n, -, rfl⟩ := map_eq_ok_iff.1 h
    exact hR.bufferSize r n
  · cases h; exact hR.cookies r _
  all_goals cases h

theorem onBody {α : Type} {x : Action Sink SinkEvent α} (h : x.Emits SinkEvent.IsWrite) :
    (Response.onBody x).Keeps R := by
  intro r
  rw [state_onBody_of_writes h r]
  exact hR.body r _

end IsLoose

end Response

namespace ResponseOp

open Response

/-- Does an operation have nothing to do with the outcome? -/
def leavesOutcome : ResponseOp → Bool
  | .setStatus _ | .setCommitted _ | .flush | .reset | .sendError _ _ | .sendRedirect _
  | .assign .status _ => false
  | .body op => !op.closes
  | _ => true

theorem keeps_loose {R : Response → Response → Prop} (hR : IsLoose R) {thisYear : Int} {op : ResponseOp}
    (h : op.leavesOutcome = true) : (op.run thisYear).Keeps R := by
  have still {α : Type} (f : Response → Except Fault α) :
      (Action.query f : Action Response LogRecord α).Keeps R :=
    Action.keeps_query hR.refl f
  have headers (op : HeadersOp) : (runHeaders thisYear op).Keeps R :=
    Action.keeps_within fun r => hR.headers r _
  cases op with
  | setStatus | setCommitted | flush | reset | sendError | sendRedirect => cases h
  | resetBuffer =>
    refine .silently (Action.keeps_update hR.refl fun r r' hr => ?_)
    unfold Response.resetBuffer at hr
    split at hr <;> cases hr
    exact hR.body r _
  | encodeUrl => exact Action.keeps_pure hR.refl _
  | setHeader | addHeader => exact .silently (Action.keeps_modify fun r => hR.writeHeader _ _ _ r)
  | setIntHeader | addIntHeader | setDateHeader | addDateHeader =>
    refine .silently (Action.keeps_update hR.refl fun r r' hr => ?_)
    obtain ⟨w, -, rfl⟩ := map_eq_ok_iff.1 hr
    exact hR.writeHeader ..
  | hasHeader | header | headerTexts | headerNames | headerValue | headerValues => exact headers _
  | headerDate => exact still _
  | setContentType ct => exact .silently (Action.keeps_modify fun r => hR.setContentType ct r)
  | setEncoding => exact .silently (Action.keeps_update hR.refl fun r r' hr => hR.setEncoding hr)
  | setLocale l => exact .silently (Action.keeps_modify fun r => hR.setLocale l r)
  | getSink => exact Action.keeps_pure hR.refl _
  | write v =>
    refine Action.Keeps.bind hR.trans ?_ fun _ => Action.keeps_pure hR.refl _
    have put (w : Value) : (Response.onBody (Sink.write w)).Keeps R := hR.onBody (Sink.emits_write w)
    refine Action.Keeps.bind hR.trans hR.refl fun r => ?_
    split
    · exact (still _).bind hR.trans fun name => (still _).bind hR.trans fun bs => put _
    · exact put _
  | contentText => exact still _
  | addCookie => exact .silently (Action.keeps_modify fun r => hR.cookies r _)
  | read => exact still _
  | assign p v =>
    have hp (status : p = .status) (r : Response) (n : Whole) : R r (r.setStatus n) := by
      subst status
      cases h
    exact .silently (Action.keeps_update hR.refl fun r r' hr => hR.assign hp hr)
  | literal => exact still _
  | config op =>
    intro r
    have still : (runConfig op r).state = r := op.state_within fun scene h => by rw [h]
    rw [run, still]
    exact hR.refl r
  | headers op => exact headers op
  | body op =>
    have hc : op.closes = false := by simpa [leavesOutcome] using h
    exact hR.onBody (SinkOp.emits_run hc)

end ResponseOp

/-! ## Hosted code -/

/-- The operation on the response to which one of hosted code is passed on. The others are answered or
refused without asking the response. -/
def HostedResponseOp.passedOn : HostedResponseOp → Option ResponseOp
  | .status => some (.read .status)
  | .setStatus n => some (.setStatus n)
  | .sendError n message => some (.sendError n message)
  | .sendRedirect url => some (.sendRedirect url)
  | .isCommitted => some (.read .committed)
  | .flush => some .flush
  | .resetBuffer => some .resetBuffer
  | .reset => some .reset
  | .bufferSize => some (.read .bufferSize)
  | .setBufferSize size => some (.assign .bufferSize size)
  | .hasHeader name => some (.hasHeader name)
  | .header name => some (.header name)
  | .headerTexts name => some (.headerTexts name)
  | .headerNames => some .headerNames
  | .setHeader name v => some (.setHeader name v)
  | .addHeader name v => some (.addHeader name v)
  | .setIntHeader name v => some (.setIntHeader name v)
  | .addIntHeader name v => some (.addIntHeader name v)
  | .setDateHeader name v => some (.setDateHeader name v)
  | .addDateHeader name v => some (.addDateHeader name v)
  | .encoding => some (.read .encoding)
  | .setEncoding s => some (.setEncoding s)
  | .contentType => some (.read .contentType)
  | .setContentType ct => some (.setContentType ct)
  | .getSink => some .getSink
  | .locale => some (.read .locale)
  | .setLocale l => some (.setLocale l)
  | .encodeUrl url => some (.encodeUrl url)
  | .model | .literal | .unsupported _ => none

theorem HostedResponseOp.run_of_passedOn {thisYear : Int} {op : HostedResponseOp} {o : ResponseOp}
    (h : op.passedOn = some o) : op.run thisYear = o.run thisYear := by
  cases op <;> cases h <;> rfl

/-- What is not passed on does not change the response. -/
theorem HostedResponseOp.state_of_passedOn {thisYear : Int} {op : HostedResponseOp}
    (h : op.passedOn = none) (r : Response) : (op.run thisYear r).state = r := by
  cases op <;> cases h <;> rfl

namespace Subject

/-- The operation on the response that a step is, directly or through the view of hosted code. -/
def ResponseStep.op? : ResponseStep → Option ResponseOp
  | .inl op => some op
  | .inr op => op.passedOn

theorem ResponseStep.performs {thisYear : Int} :
    (Subject.response thisYear).Performs ResponseStep.op? (ResponseOp.run thisYear) :=
  .of_passedOn (fun _ => ⟨rfl, rfl⟩) HostedResponseOp.run_of_passedOn HostedResponseOp.state_of_passedOn

end Subject

/-! ## Reachable responses -/

namespace Response

/-- A response as it is made. -/
def IsNew (r : Response) : Prop := ∃ config, new config = .ok r

/-- A response that steps lead to. -/
def Reachable (thisYear : Int) : Response → Prop := (Subject.response thisYear).Reachable IsNew

def SameConfig (r r' : Response) : Prop := r'.config = r.config

theorem config_setStatus (r : Response) (n : Whole) : SameConfig r (r.setStatus n) := by
  unfold setStatus
  split <;> rfl

theorem isLoose_sameConfig : IsLoose SameConfig where
  refl _ := rfl
  trans _ _ _ h h' := Eq.trans h' h
  headers _ _ := rfl
  body _ _ := rfl
  contentType _ _ := rfl
  encoding _ _ := rfl
  locale _ _ := rfl
  bufferSize _ _ := rfl
  cookies _ _ := rfl

end Response

theorem ResponseOp.keeps_sameConfig {thisYear : Int} (op : ResponseOp) :
    (op.run thisYear).Keeps Response.SameConfig := by
  intro r
  by_cases hl : op.leavesOutcome = true
  · exact keeps_loose Response.isLoose_sameConfig hl r
  cases op with
  | setStatus n =>
    rw [run, Action.state_silently]
    exact Response.config_setStatus r n
  | setCommitted committed =>
    rw [run, Action.state_silently]
    cases committed with
    | false => rfl
    | true => exact congrArg (fun o => o.state.config) (Response.commit_eq r)
  | flush =>
    rw [run, Action.state_silently]
    exact congrArg (fun o => o.state.config) (Response.commit_eq r)
  | reset =>
    rw [run, Action.state_silently]
    cases h : r.config.locale with
    | ok l => rw [Response.reset_of_locale h]; rfl
    | error fault => rw [Response.reset_of_fault h]; rfl
  | sendError n message =>
    rw [run, Action.state_silently, Response.sendError_eq]
    split <;> rfl
  | sendRedirect url =>
    rw [run, Action.state_silently, Response.sendRedirect_eq]
    split
    · rfl
    · cases url <;> rfl
  | assign p v =>
    rw [run, Action.state_silently]
    have loose := Response.isLoose_sameConfig
    refine Action.keeps_update loose.refl (fun s s' hs => loose.assign (fun _ => ?_) hs) r
    exact Response.config_setStatus
  | body op =>
    rw [run, (Response.onBody_eq _ r).1]
    rfl
  | _ => exact absurd rfl hl

namespace Response

theorem exists_initial_of_new {config : Config} {r : Response} (h : new config = .ok r) :
    ∃ l n, config.locale = .ok l ∧ r = initial config l n := by
  unfold new at h
  cases hl : config.locale with
  | error fault => simp [hl, bind, Except.bind] at h
  | ok l =>
    cases hn : config.bufferSize with
    | error fault => simp [hl, hn, bind, Except.bind] at h
    | ok n =>
      simp only [hl, hn, bind, Except.bind, pure, Except.pure] at h
      exact ⟨l, _, rfl, (Except.ok.inj h).symm⟩

/-- Another response can always be made of the configuration of a response. -/
theorem Reachable.exists_new {thisYear : Int} {r : Response} (h : Reachable thisYear r) :
    ∃ fresh, new r.config = .ok fresh := by
  induction h with
  | @start s hs =>
    obtain ⟨config, hconfig⟩ := hs
    obtain ⟨l, n, -, rfl⟩ := exists_initial_of_new hconfig
    exact ⟨_, hconfig⟩
  | @step s step _ ih =>
    have same : ((Subject.response thisYear).run step s).state.config = s.config :=
      Subject.ResponseStep.performs.keeps_of_op (R := SameConfig) (fun _ => rfl) (fun op _ => op.keeps_sameConfig) s
    rw [same]
    exact ih

/-- Whatever is done to a response, its configuration names a locale. -/
theorem Reachable.locale {thisYear : Int} {r : Response} (h : Reachable thisYear r) :
    ∃ l, r.config.locale = .ok l := by
  obtain ⟨fresh, hfresh⟩ := h.exists_new
  obtain ⟨l, n, hl, -⟩ := exists_initial_of_new hfresh
  exact ⟨l, hl⟩

end Response

end HttpExchange

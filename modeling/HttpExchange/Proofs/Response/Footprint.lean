import HttpExchange.Proofs.Header.History
import HttpExchange.Proofs.Response.Step

/-!
# What operations on a response leave alone

Each operation on a response has a footprint: the parts of the response that it may change. All other parts
are the same afterwards, whether the operation fails or not, and the configuration always is.

## Main statements

* `ResponseOp.keeps_sameApart`: an operation changes nothing outside its footprint.
* `Subject.ResponseStep.same_run`: the same of a step, be it of hosted code or not.
-/

namespace HttpExchange

open HttpExchange.Action

/-- The parts of a response. The status, the message of an error and whether they are fixed are one part. -/
inductive ResponsePart where
  | headers
  | body
  | outcome
  | contentType
  | encoding
  | locale
  | bufferSize
  | cookies
  deriving DecidableEq

/-- The part is the same in both responses. -/
def ResponsePart.Same (r r' : Response) : ResponsePart → Prop
  | .headers => r'.headers = r.headers
  | .body => r'.body = r.body
  | .outcome =>
    r'.status = r.status ∧ r'.errorMessage = r.errorMessage ∧ r'.committed = r.committed
  | .contentType => r'.contentType = r.contentType
  | .encoding => r'.encoding = r.encoding ∧ r'.fallbackEncoding = r.fallbackEncoding
  | .locale => r'.locale = r.locale
  | .bufferSize => r'.bufferSize = r.bufferSize
  | .cookies => r'.cookies = r.cookies

namespace ResponsePart

variable {r s t : Response} {part : ResponsePart}

theorem Same.refl (r : Response) (part : ResponsePart) : part.Same r r := by
  cases part <;> simp [Same]

theorem Same.trans (h : part.Same r s) (h' : part.Same s t) : part.Same r t := by
  cases part with
  | outcome =>
    exact ⟨h'.1.trans h.1, h'.2.1.trans h.2.1, h'.2.2.trans h.2.2⟩
  | encoding => exact ⟨h'.1.trans h.1, h'.2.trans h.2⟩
  | _ => exact Eq.trans h' h

end ResponsePart

/-- The parts that an operation may change. -/
def ResponseOp.footprint : ResponseOp → List ResponsePart
  | .setStatus _ | .setCommitted _ | .flush | .sendError _ _ | .assign .status _ => [.outcome]
  | .sendRedirect _ => [.headers, .outcome]
  | .reset => [.headers, .body, .outcome, .contentType, .encoding, .locale, .cookies]
  | .resetBuffer | .write _ => [.body]
  | .body op => if op.closes then [.body, .outcome] else [.body]
  | .setHeader _ _ | .addHeader _ _ | .setIntHeader _ _ | .addIntHeader _ _ | .setDateHeader _ _
  | .addDateHeader _ _ => [.headers]
  | .headers op => if op.isOnValues || op.event?.isSome then [.headers] else []
  | .setContentType _ | .setEncoding _ | .assign .contentType _ | .assign .encoding _ =>
    [.headers, .contentType, .encoding]
  | .setLocale _ => [.headers, .locale]
  | .assign .bufferSize _ => [.bufferSize]
  | .addCookie _ | .assign .cookies _ => [.cookies]
  | _ => []

namespace Response

/-- The responses are the same apart from the given parts. -/
structure SameApart (changed : List ResponsePart) (r r' : Response) : Prop where
  config_eq : r'.config = r.config
  same : ∀ part ∉ changed, part.Same r r'

variable {changed : List ResponsePart}

theorem SameApart.refl (r : Response) : r.SameApart changed r :=
  ⟨rfl, fun part _ => .refl r part⟩

theorem SameApart.trans {r s t : Response} (h : r.SameApart changed s) (h' : s.SameApart changed t) :
    r.SameApart changed t :=
  ⟨h'.config_eq.trans h.config_eq, fun part hpart => (h.same part hpart).trans (h'.same part hpart)⟩

theorem SameApart.mono {more : List ResponsePart} (hsub : changed ⊆ more) {r r' : Response}
    (h : r.SameApart changed r') : r.SameApart more r' :=
  ⟨h.config_eq, fun part hpart => h.same part fun hc => hpart (hsub hc)⟩

/-! ## Changes -/

section Parts

variable (r : Response)

theorem sameApart_headers (h : Headers) : r.SameApart [.headers] { r with headers := h } := by
  refine ⟨rfl, fun part hpart => ?_⟩
  cases part <;> simp_all [ResponsePart.Same]

theorem sameApart_body (b : Sink) : r.SameApart [.body] { r with body := b } := by
  refine ⟨rfl, fun part hpart => ?_⟩
  cases part <;> simp_all [ResponsePart.Same]

theorem sameApart_outcome (status : Whole) (message : Option (Thing String)) (committed : Bool) :
    r.SameApart [.outcome] { r with status, errorMessage := message, committed } := by
  refine ⟨rfl, fun part hpart => ?_⟩
  cases part <;> simp_all [ResponsePart.Same]

theorem sameApart_contentType (ct : Option (Thing String)) :
    r.SameApart [.contentType] { r with contentType := ct } := by
  refine ⟨rfl, fun part hpart => ?_⟩
  cases part <;> simp_all [ResponsePart.Same]

theorem sameApart_encoding (e : Option (Thing String)) :
    r.SameApart [.encoding] { r with encoding := e } := by
  refine ⟨rfl, fun part hpart => ?_⟩
  cases part <;> simp_all [ResponsePart.Same]

theorem sameApart_locale (l : Thing Locale) : r.SameApart [.locale] { r with locale := l } := by
  refine ⟨rfl, fun part hpart => ?_⟩
  cases part <;> simp_all [ResponsePart.Same]

theorem sameApart_bufferSize (n : Whole) : r.SameApart [.bufferSize] { r with bufferSize := n } := by
  refine ⟨rfl, fun part hpart => ?_⟩
  cases part <;> simp_all [ResponsePart.Same]

theorem sameApart_cookies (cs : Thing (List Value)) :
    r.SameApart [.cookies] { r with cookies := cs } := by
  refine ⟨rfl, fun part hpart => ?_⟩
  cases part <;> simp_all [ResponsePart.Same]

end Parts

theorem sameApart_setStatus (r : Response) (n : Whole) : r.SameApart [.outcome] (r.setStatus n) := by
  unfold setStatus
  split
  · exact .refl r
  · exact sameApart_outcome r n r.errorMessage r.committed

theorem sameApart_writeHeader (name : String) (v : Value) (replace : Bool) (r : Response) :
    r.SameApart [.headers] (r.writeHeader name v replace) := by
  unfold writeHeader
  split
  · exact .refl r
  · exact sameApart_headers r _

theorem sameApart_syncContentType (r : Response) :
    r.SameApart [.headers, .contentType, .encoding] r.syncContentType := by
  unfold syncContentType
  split
  · exact .refl r
  · next ct _ =>
    have renewed := sameApart_contentType r (some (ContentType.renew ct r.encodingName))
    exact (renewed.mono (by decide)).trans ((sameApart_headers _ _).mono (by decide))

theorem sameApart_adoptCharset (ct : String) (r : Response) :
    r.SameApart [.encoding] (r.adoptCharset ct) := by
  unfold adoptCharset
  split
  · split
    · exact .refl r
    · exact sameApart_encoding r _
  · exact .refl r

theorem sameApart_setContentType (ct : Option String) (r : Response) :
    r.SameApart [.headers, .contentType, .encoding] (r.setContentType ct) := by
  cases ct with
  | none => exact (sameApart_contentType r none).mono (by decide)
  | some ct =>
    have typed := sameApart_contentType r (some (.ofText .contentType ct))
    have adopted := sameApart_adoptCharset ct { r with contentType := some (.ofText .contentType ct) }
    exact (typed.mono (by decide)).trans
      ((adopted.mono (by decide)).trans (sameApart_syncContentType _))

theorem sameApart_setEncoding {encoding : Option String} {r s : Response}
    (h : r.setEncoding encoding = .ok s) : r.SameApart [.headers, .contentType, .encoding] s := by
  cases encoding with
  | none => cases h
  | some encoding =>
    obtain rfl := Except.ok.inj h
    have encoded := sameApart_encoding r (some (.ofText .encoding encoding))
    exact (encoded.mono (by decide)).trans (sameApart_syncContentType _)

theorem sameApart_setLocale (locale : Option Locale) (r : Response) :
    r.SameApart [.headers, .locale] (r.setLocale locale) := by
  cases locale with
  | none => exact .refl r
  | some l =>
    have moved := sameApart_locale r ⟨.own (.locale 0), l⟩
    exact (moved.mono (by decide)).trans ((sameApart_headers _ _).mono (by decide))

theorem sameApart_assign {r s : Response} {p : ResponseProperty} {v : Value} (h : r.assign p v = .ok s) :
    r.SameApart (ResponseOp.assign p v).footprint s := by
  unfold assign at h
  split at h
  · obtain ⟨n, -, rfl⟩ := map_eq_ok_iff.1 h
    exact sameApart_setStatus r n
  · obtain rfl := Except.ok.inj h
    exact sameApart_setContentType none r
  · obtain rfl := Except.ok.inj h
    exact sameApart_setContentType _ r
  · cases h
  · exact sameApart_setEncoding h
  · obtain ⟨n, -, rfl⟩ := map_eq_ok_iff.1 h
    exact sameApart_bufferSize r n
  · obtain rfl := Except.ok.inj h
    exact sameApart_cookies r _
  all_goals cases h

theorem sameApart_resetBuffer {r s : Response} (h : r.resetBuffer = .ok s) : r.SameApart [.body] s := by
  unfold resetBuffer at h
  split at h
  · cases h
  · obtain rfl := Except.ok.inj h
    exact sameApart_body r _

theorem sameApart_reset (r : Response) : r.SameApart ResponseOp.reset.footprint (reset r).state := by
  cases h : r.config.locale with
  | ok l =>
    rw [reset_of_locale h]
    refine ⟨rfl, fun part hpart => ?_⟩
    cases part <;> simp_all [ResponsePart.Same, ResponseOp.footprint, initial]
  | error fault =>
    rw [reset_of_fault h]
    refine ⟨rfl, fun part hpart => ?_⟩
    cases part <;> simp_all [ResponsePart.Same, ResponseOp.footprint, cleared, initial]

theorem sameApart_commit (r : Response) : r.SameApart [.outcome] (commit r).state := by
  rw [commit_eq]
  exact sameApart_outcome r r.status r.errorMessage true

theorem sameApart_sendError (status : Whole) (message : Option String) (r : Response) :
    r.SameApart [.outcome] (sendError status message r).state := by
  rw [sendError_eq]
  split
  · exact .refl r
  · exact sameApart_outcome r status _ true

theorem sameApart_sendRedirect (url : Option String) (r : Response) :
    r.SameApart [.headers, .outcome] (sendRedirect url r).state := by
  rw [sendRedirect_eq]
  split
  · exact .refl r
  · cases url with
    | none => exact .refl r
    | some url =>
      have located := sameApart_headers r
        (r.headers.putUnique locationHeader ((Value.ofText url).owned .header))
      refine (located.mono (by decide)).trans ?_
      exact (sameApart_outcome _ (.builtIn statusFound) r.errorMessage true).mono (by decide)

theorem sameApart_onBody {α : Type} (x : Action Sink SinkEvent α) (r : Response) :
    r.SameApart [.body, .outcome] (onBody x r).state := by
  rw [(onBody_eq x r).1]
  have written := sameApart_body r (x r.body).state
  refine (written.mono (by decide)).trans ?_
  exact (sameApart_outcome _ r.status r.errorMessage _).mono (by decide)

/-- What only writes to the body does not touch the outcome. -/
theorem sameApart_onBody_of_writes {α : Type} {x : Action Sink SinkEvent α}
    (h : x.Emits SinkEvent.IsWrite) (r : Response) : r.SameApart [.body] (onBody x r).state := by
  rw [state_onBody_of_writes h]
  exact sameApart_body r _

theorem keeps_write_sameApart (v : Value) : (write v).Keeps (SameApart [.body]) := by
  have put (w : Value) : (onBody (Sink.write w)).Keeps (SameApart [.body]) :=
    sameApart_onBody_of_writes (Sink.emits_write w)
  have trans (r s t : Response) (h : r.SameApart [.body] s) (h' : s.SameApart [.body] t) :
      r.SameApart [.body] t := h.trans h'
  refine Keeps.bind trans .refl fun r => ?_
  split
  · exact Keeps.bind trans .refl fun name => Keeps.bind trans .refl fun bs => put _
  · exact put _

end Response

namespace ResponseOp

/-- Operations on headers that are no events do not change them. -/
theorem state_runHeaders_of_event?_eq_none {thisYear : Int} {op : HeadersOp} (hop : op.isOnValues = false)
    (he : op.event? = none) (r : Response) : (runHeaders thisYear op r).state = r :=
  state_within (HeadersOp.state_of_event?_eq_none thisYear hop he r.headers) rfl

open Response in
/-- An operation changes nothing outside its footprint. -/
theorem keeps_sameApart {thisYear : Int} (op : ResponseOp) :
    (op.run thisYear).Keeps (SameApart op.footprint) := by
  have trans : ∀ r s t : Response, r.SameApart op.footprint s → s.SameApart op.footprint t →
      r.SameApart op.footprint t := fun _ _ _ => .trans
  cases op with
  | setStatus n => exact .silently fun r => sameApart_setStatus r n
  | setCommitted committed =>
    refine .silently fun r => ?_
    cases committed with
    | false => exact .refl r
    | true => exact sameApart_commit r
  | flush => exact .silently sameApart_commit
  | resetBuffer => exact .silently (keeps_update .refl fun r s => sameApart_resetBuffer)
  | reset => exact .silently sameApart_reset
  | sendError n message => exact .silently (sameApart_sendError n message)
  | sendRedirect url => exact .silently (sameApart_sendRedirect url)
  | setHeader name v => exact .silently (sameApart_writeHeader name v true)
  | addHeader name v => exact .silently (sameApart_writeHeader name v false)
  | setIntHeader | addIntHeader | setDateHeader | addDateHeader =>
    refine .silently (keeps_update .refl fun r s hs => ?_)
    obtain ⟨w, -, rfl⟩ := map_eq_ok_iff.1 hs
    exact sameApart_writeHeader ..
  | hasHeader | header | headerTexts | headerNames | headerValue | headerValues =>
    intro r
    rw [run, state_runHeaders_of_event?_eq_none rfl rfl]
    exact .refl r
  | setContentType ct => exact .silently (sameApart_setContentType ct)
  | setEncoding e => exact .silently (keeps_update .refl fun r s => sameApart_setEncoding)
  | setLocale l => exact .silently (sameApart_setLocale l)
  | write v => exact (keeps_write_sameApart v).bind trans fun _ => .refl
  | addCookie cookie =>
    exact .silently (keeps_modify fun r => sameApart_cookies r _)
  | assign p v => exact .silently (keeps_update .refl fun r s => sameApart_assign)
  | config op =>
    intro r
    have still : (runConfig op r).state = r := op.state_within fun scene h => by rw [h]
    rw [run, still]
    exact .refl r
  | headers op =>
    intro r
    by_cases hop : (op.isOnValues || op.event?.isSome) = true
    · rw [footprint, if_pos hop]
      exact sameApart_headers r _
    · rw [Bool.or_eq_true, not_or] at hop
      rw [run, state_runHeaders_of_event?_eq_none (by simpa using hop.1) (by simpa using hop.2)]
      exact .refl r
  | body op =>
    intro r
    by_cases hc : op.closes = true
    · rw [footprint, if_pos hc]
      exact sameApart_onBody op.run r
    · rw [footprint, if_neg hc]
      exact sameApart_onBody_of_writes (SinkOp.emits_run (by simpa using hc)) r
  | encodeUrl | headerDate | getSink | contentText | read | literal => exact .refl

end ResponseOp

namespace Subject

/-- A step changes no part that is outside the footprint of its operation, and nothing if it has none. -/
theorem ResponseStep.same_run {thisYear : Int} {step : ResponseStep} {part : ResponsePart}
    (h : ∀ op, step.op? = some op → part ∉ op.footprint) (r : Response) :
    part.Same r ((Subject.response thisYear).run step r).state :=
  ResponseStep.performs.keeps_of_op (R := fun r s => part.Same r s) (.refl · part)
    (fun op hop r => (op.keeps_sameApart r).same part (h op hop)) r

end Subject

end HttpExchange

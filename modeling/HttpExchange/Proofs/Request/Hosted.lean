import HttpExchange.Proofs.Header.Reachable
import HttpExchange.Proofs.Request.Body

/-!
# What hosted code can change

Hosted code is given a view of a request, not the request itself. Most calls of the view read, and those that
cannot be honoured are refused. Only a few change anything: one of them writes the encoding into the content
type and its header, two hand out the content, two are about attributes, and one forgets the user. All else
stays as whoever built the request left it.

## Main statements

* `HostedRequestOp.change_run`: all that one call can do.
* `Request.Confined`: what no call touches.
* `Subject.hosted_code_is_confined`: runs of calls.
-/

namespace HttpExchange

open HttpExchange.Action

/-- The names of the refused operations tell them apart. -/
theorem UnsupportedRequestOp.name_injective : Function.Injective name := by
  intro op other h
  cases op <;> cases other <;> first | rfl | exact absurd h (by decide)

namespace IncomingBody

/-- To ask for an accessor leaves the content alone. -/
theorem Hands.content_eq {use : Nat → BodyUse} {b : IncomingBody} {o : Outcome IncomingBody LogRecord Nat}
    (h : b.Hands use o) : o.state.content = b.content := by
  cases h <;> rfl

theorem Hands.keeps_content {use : Nat → BodyUse} {x : Action IncomingBody LogRecord Nat}
    (h : ∀ b : IncomingBody, b.Hands use (x b)) (f : Nat → Answer) :
    (x >>= fun n => pure (f n) : Action IncomingBody LogRecord Answer).Keeps
      fun b b' => b'.content = b.content :=
  Keeps.bind (fun _ _ _ hbc hcd => hcd.trans hbc) (fun b => (h b).content_eq) fun _ _ => rfl

end IncomingBody

namespace Request

/-- What a call of hosted code can make of a request. -/
inductive HostedChange (r : Request) : HostedRequestOp → Request → Prop where
  | still (op : HostedRequestOp) : HostedChange r op r
  | encode (encoding : Option String) : HostedChange r (.setEncoding encoding) (r.setEncoding encoding)
  | handOut {op : HostedRequestOp} (hop : op = .getStream ∨ op = .getReader) {b : IncomingBody}
      (hb : b.content = r.body.content) : HostedChange r op { r with body := b }
  | setAttribute (name value : Value) (a : Attributes) :
      HostedChange r (.setAttribute name value) { r with attributes := a }
  | removeAttribute (name : Value) (a : Attributes) :
      HostedChange r (.removeAttribute name) { r with attributes := a }
  | logout : HostedChange r .logout r.logout

end Request

open Request in
theorem HostedRequestOp.change_run (thisYear : Int) (op : HostedRequestOp) (r : Request) :
    r.HostedChange op (op.run thisYear r).state := by
  cases op with
  | setEncoding e =>
    rw [run, RequestOp.run, state_silently]
    exact .encode e
  | getStream =>
    rw [run, RequestOp.run_eq_onBody (o := .getStream) rfl]
    exact .handOut (.inl rfl) (IncomingBody.Hands.keeps_content IncomingBody.hands_getStream _ r.body)
  | getReader =>
    rw [run, RequestOp.run_eq_onBody (o := .getReader r.readerEncoding) rfl]
    exact .handOut (.inr rfl)
      (IncomingBody.Hands.keeps_content (IncomingBody.hands_getReader · r.readerEncoding) _ r.body)
  | setAttribute name value => exact .setAttribute name value _
  | removeAttribute name => exact .removeAttribute name _
  | logout => exact .logout
  | headerInteger name | headerDate name | header name | headerTexts name | headerNames =>
    rw [run, RequestOp.run, RequestOp.state_runHeaders_of_event?_eq_none rfl rfl]
    exact .still _
  | _ => exact .still _

namespace Request

/-- The second request is the first one, but for the content type with its header and encoding, how the content
was handed out, the attributes, and who the user is. -/
structure Confined (r s : Request) : Prop where
  config_eq : s.config = r.config
  target_eq : s.target = r.target
  parameters_eq : s.parameters = r.parameters
  locales_eq : s.locales = r.locales
  parts_eq : s.parts = r.parts
  cookies_eq : s.cookies = r.cookies
  session_eq : s.session = r.session
  dispatch_eq : s.dispatch = r.dispatch
  async_eq : s.asyncStarted = r.asyncStarted ∧ s.asyncSupported = r.asyncSupported
  roles_eq : s.caller.roles = r.caller.roles
  content_eq : s.body.content = r.body.content
  headers_eq : s.headers.others contentTypeHeader = r.headers.others contentTypeHeader

theorem Confined.refl (r : Request) : r.Confined r := by
  constructor <;> simp

theorem Confined.trans {r s t : Request} (h : r.Confined s) (h' : s.Confined t) : r.Confined t where
  config_eq := h'.config_eq.trans h.config_eq
  target_eq := h'.target_eq.trans h.target_eq
  parameters_eq := h'.parameters_eq.trans h.parameters_eq
  locales_eq := h'.locales_eq.trans h.locales_eq
  parts_eq := h'.parts_eq.trans h.parts_eq
  cookies_eq := h'.cookies_eq.trans h.cookies_eq
  session_eq := h'.session_eq.trans h.session_eq
  dispatch_eq := h'.dispatch_eq.trans h.dispatch_eq
  async_eq := ⟨h'.async_eq.1.trans h.async_eq.1, h'.async_eq.2.trans h.async_eq.2⟩
  roles_eq := h'.roles_eq.trans h.roles_eq
  content_eq := h'.content_eq.trans h.content_eq
  headers_eq := h'.headers_eq.trans h.headers_eq

/-- An encoding is written into a content type and its header, if there is one. -/
theorem setEncoding_cases (r : Request) (e : Option String) :
    (r.contentType = none ∧ r.setEncoding e = { r with encoding := e.map (Thing.ofText .encoding) }) ∨
    ∃ ct renewed, r.contentType = some ct ∧ r.setEncoding e = { r with
      encoding := e.map (Thing.ofText .encoding)
      contentType := some renewed
      headers := r.headers.putUnique contentTypeHeader renewed.text } := by
  unfold setEncoding syncContentType
  cases hct : r.contentType with
  | none => exact .inl ⟨rfl, rfl⟩
  | some ct => exact .inr ⟨ct, _, rfl, rfl⟩

/-- The encoding is not in the body, the attributes, or what is known of the user. -/
theorem apart_setEncoding (r : Request) (e : Option String) : (r.setEncoding e).body = r.body ∧
    (r.setEncoding e).attributes = r.attributes ∧ (r.setEncoding e).caller = r.caller := by
  obtain ⟨-, hset⟩ | ⟨ct, renewed, -, hset⟩ := r.setEncoding_cases e
  · rw [hset]
    exact ⟨rfl, rfl, rfl⟩
  · rw [hset]
    exact ⟨rfl, rfl, rfl⟩

theorem confined_setEncoding {r : Request} (hk : r.headers.IsKeyed) (e : Option String) :
    r.Confined (r.setEncoding e) := by
  obtain ⟨-, hs⟩ | ⟨ct, renewed, -, hs⟩ := r.setEncoding_cases e
  · rw [hs]
    constructor <;> simp
  · have headers_eq := Headers.others_putAs hk ⟨.unique, contentTypeHeader⟩ renewed.text true
    rw [hs]
    constructor <;> simp
    exact headers_eq

section Change

variable {r s : Request} {op : HostedRequestOp} (h : r.HostedChange op s)
include h

theorem HostedChange.isKeyed (hk : r.headers.IsKeyed) : s.headers.IsKeyed := by
  cases h with
  | encode e => exact (becomes_setEncoding e r).isKeyed hk
  | _ => exact hk

theorem HostedChange.confined (hk : r.headers.IsKeyed) : r.Confined s := by
  cases h with
  | encode e => exact confined_setEncoding hk e
  | handOut hop hb => constructor <;> simp [hb]
  | logout => constructor <;> simp [Request.logout]
  | still | setAttribute | removeAttribute => constructor <;> simp

theorem HostedChange.contentType_eq (hs : r.contentType = none ∨ ∀ e, op ≠ .setEncoding e) :
    s.contentType = r.contentType ∧ s.headers = r.headers := by
  cases h with
  | encode e =>
    obtain ⟨-, hset⟩ | ⟨ct, renewed, hct, -⟩ := r.setEncoding_cases e
    · rw [hset]
      exact ⟨rfl, rfl⟩
    · rcases hs with hnone | hne
      · rw [hct] at hnone
        cases hnone
      · exact absurd rfl (hne e)
  | _ => exact ⟨rfl, rfl⟩

theorem HostedChange.encoding_eq (hs : ∀ e, op ≠ .setEncoding e) : s.encoding = r.encoding := by
  cases h with
  | encode e => exact absurd rfl (hs e)
  | _ => rfl

theorem HostedChange.body_eq (hs : op ≠ .getStream ∧ op ≠ .getReader) : s.body = r.body := by
  cases h with
  | handOut hop => exact absurd hop (not_or.2 hs)
  | encode e => exact (r.apart_setEncoding e).1
  | _ => rfl

theorem HostedChange.attributes_eq
    (hs : (∀ name value, op ≠ .setAttribute name value) ∧ ∀ name, op ≠ .removeAttribute name) :
    s.attributes = r.attributes := by
  cases h with
  | setAttribute name value => exact absurd rfl (hs.1 name value)
  | removeAttribute name => exact absurd rfl (hs.2 name)
  | encode e => exact (r.apart_setEncoding e).2.1
  | _ => rfl

theorem HostedChange.caller_eq (hs : op ≠ .logout) : s.caller = r.caller := by
  cases h with
  | logout => exact absurd rfl hs
  | encode e => exact (r.apart_setEncoding e).2.2
  | _ => rfl

end Change

end Request

/-! ## Runs -/

namespace Subject

/-- A request after some calls of hosted code. -/
def afterHosted (thisYear : Int) (ops : List HostedRequestOp) (r : Request) : Request :=
  (request thisYear).after (ops.map .inr) r

section Runs

variable {thisYear : Int} {ops : List HostedRequestOp} {r : Request}

/-- What every call keeps, a run of calls keeps. -/
theorem afterHosted_induction {R : Request → Request → Prop} (refl : ∀ r, R r r)
    (trans : ∀ r s t, R r s → R s t → R r t) (h : ∀ op ∈ ops, ∀ r s, r.HostedChange op s → R r s)
    (r : Request) : R r (afterHosted thisYear ops r) := by
  refine after_induction refl trans (fun step hstep r => ?_) r
  obtain ⟨op, hop, rfl⟩ := List.mem_map.1 hstep
  exact h op hop r _ (op.change_run thisYear r)

/-- If a part of a request changes in a run, one of the calls is of the kind that changes it. -/
theorem exists_mem_of_changed {α : Type} (part : Request → α) (changes : HostedRequestOp → Prop)
    (h : ∀ op r s, ¬ changes op → r.HostedChange op s → part s = part r)
    (hne : part (afterHosted thisYear ops r) ≠ part r) : ∃ op ∈ ops, changes op := by
  by_contra hnone
  push Not at hnone
  refine hne (afterHosted_induction (R := fun r s => part s = part r) (fun _ => rfl) ?_ ?_ r)
  · intro r s t hrs hst
    exact hst.trans hrs
  · intro op hop r s hchange
    exact h op r s (hnone op hop) hchange

theorem exists_setEncoding_of_contentType_ne
    (hne : ((afterHosted thisYear ops r).contentType, (afterHosted thisYear ops r).headers) ≠
      (r.contentType, r.headers)) : ∃ e, HostedRequestOp.setEncoding e ∈ ops := by
  have kept : ∀ op (r s : Request), (¬ ∃ e, op = .setEncoding e) → r.HostedChange op s →
      (s.contentType, s.headers) = (r.contentType, r.headers) := by
    intro op r s hnot hchange
    obtain ⟨htype, hheaders⟩ := hchange.contentType_eq (.inr (not_exists.1 hnot))
    rw [htype, hheaders]
  obtain ⟨op, hop, e, rfl⟩ :=
    exists_mem_of_changed (fun r => (r.contentType, r.headers)) (∃ e, · = .setEncoding e) kept hne
  exact ⟨e, hop⟩

theorem exists_setEncoding_of_encoding_ne (hne : (afterHosted thisYear ops r).encoding ≠ r.encoding) :
    ∃ e, HostedRequestOp.setEncoding e ∈ ops := by
  obtain ⟨op, hop, e, rfl⟩ := exists_mem_of_changed Request.encoding (∃ e, · = .setEncoding e)
    (fun op r s hnot hchange => hchange.encoding_eq (not_exists.1 hnot)) hne
  exact ⟨e, hop⟩

theorem mem_of_body_ne (hne : (afterHosted thisYear ops r).body ≠ r.body) :
    HostedRequestOp.getStream ∈ ops ∨ HostedRequestOp.getReader ∈ ops := by
  obtain ⟨op, hop, rfl | rfl⟩ := exists_mem_of_changed Request.body
    (fun op => op = .getStream ∨ op = .getReader)
    (fun op r s hnot hchange => hchange.body_eq (not_or.1 hnot)) hne
  · exact .inl hop
  · exact .inr hop

theorem exists_mem_of_attributes_ne (hne : (afterHosted thisYear ops r).attributes ≠ r.attributes) :
    (∃ name value, HostedRequestOp.setAttribute name value ∈ ops) ∨
      ∃ name, HostedRequestOp.removeAttribute name ∈ ops := by
  have kept : ∀ op (r s : Request),
      ¬ ((∃ name value, op = .setAttribute name value) ∨ ∃ name, op = .removeAttribute name) →
      r.HostedChange op s → s.attributes = r.attributes := by
    intro op r s hnot hchange
    obtain ⟨hset, hremove⟩ := not_or.1 hnot
    push Not at hset hremove
    exact hchange.attributes_eq ⟨hset, hremove⟩
  obtain ⟨op, hop, ⟨name, value, rfl⟩ | ⟨name, rfl⟩⟩ := exists_mem_of_changed Request.attributes _ kept hne
  · exact .inl ⟨name, value, hop⟩
  · exact .inr ⟨name, hop⟩

theorem logout_mem_of_caller_ne (hne : (afterHosted thisYear ops r).caller ≠ r.caller) :
    HostedRequestOp.logout ∈ ops := by
  obtain ⟨op, hop, rfl⟩ := exists_mem_of_changed Request.caller (· = .logout)
    (fun op r s hnot hchange => hchange.caller_eq hnot) hne
  exact hop

/-- Where there is no content type, none appears. -/
theorem contentType_afterHosted (hnone : r.contentType = none) :
    (afterHosted thisYear ops r).contentType = none ∧ (afterHosted thisYear ops r).headers = r.headers := by
  refine afterHosted_induction (R := fun r s => r.contentType = none → s.contentType = none ∧
    s.headers = r.headers) (fun r h => ⟨h, rfl⟩) ?_ ?_ r hnone
  · intro r s t hrs hst h
    obtain ⟨hs, hheaders⟩ := hrs h
    obtain ⟨ht, hheaders'⟩ := hst hs
    exact ⟨ht, hheaders'.trans hheaders⟩
  · intro op _ r s hchange h
    obtain ⟨htype, hheaders⟩ := hchange.contentType_eq (.inl h)
    exact ⟨htype.trans h, hheaders⟩

theorem confined_afterHosted (hk : r.headers.IsKeyed) : r.Confined (afterHosted thisYear ops r) := by
  have kept : (afterHosted thisYear ops r).headers.IsKeyed ∧ r.Confined (afterHosted thisYear ops r) := by
    refine afterHosted_induction (R := fun r s => r.headers.IsKeyed → s.headers.IsKeyed ∧ r.Confined s)
      (fun r h => ⟨h, .refl r⟩) ?_ ?_ r hk
    · intro r s t hrs hst h
      obtain ⟨hs, hconfined⟩ := hrs h
      obtain ⟨ht, hconfined'⟩ := hst hs
      exact ⟨ht, hconfined.trans hconfined'⟩
    · intro op _ r s hchange h
      exact ⟨hchange.isKeyed h, hchange.confined h⟩
  exact kept.2

end Runs

/-- Whatever hosted code calls, in whichever order and whether it fails or not, it leaves all of a request alone
but for a few parts, and each of these it changes by the calls that are there for it: the content type and its
header by setting the encoding, if there is a content type; how the content is handed out by asking for the
stream or the reader; attributes by setting and removing them; the user by logging out. What cannot be honoured is
refused by its own name, which no other operation has, and changes nothing. -/
theorem hosted_code_is_confined (thisYear : Int) {r : Request} (hr : r.Reachable thisYear)
    (ops : List HostedRequestOp) :
    let s := afterHosted thisYear ops r
    r.Confined s ∧
    ((s.contentType, s.headers) ≠ (r.contentType, r.headers) →
      r.contentType ≠ none ∧ ∃ e, HostedRequestOp.setEncoding e ∈ ops) ∧
    (s.encoding ≠ r.encoding → ∃ e, HostedRequestOp.setEncoding e ∈ ops) ∧
    (s.body ≠ r.body → HostedRequestOp.getStream ∈ ops ∨ HostedRequestOp.getReader ∈ ops) ∧
    (s.attributes ≠ r.attributes → (∃ name value, HostedRequestOp.setAttribute name value ∈ ops) ∨
      ∃ name, HostedRequestOp.removeAttribute name ∈ ops) ∧
    (s.caller ≠ r.caller → HostedRequestOp.logout ∈ ops) ∧
    ∀ op : UnsupportedRequestOp, ∃ detail,
      (request thisYear).run (.inr (.unsupported op)) s = ⟨s, [], .error (.unsupported op.name detail)⟩ ∧
        ∀ other : UnsupportedRequestOp, other.name = op.name → other = op := by
  intro s
  have keyed : r.headers.IsKeyed := (Headers.IsReachable.ofRequest hr).isKeyed
  refine ⟨confined_afterHosted keyed, fun hne => ⟨fun hnone => ?_, exists_setEncoding_of_contentType_ne hne⟩,
    exists_setEncoding_of_encoding_ne, mem_of_body_ne, exists_mem_of_attributes_ne, logout_mem_of_caller_ne,
    fun op => ⟨op.detail, rfl, fun other h => UnsupportedRequestOp.name_injective h⟩⟩
  obtain ⟨htype, hheaders⟩ := contentType_afterHosted hnone
  exact hne (Prod.ext (htype.trans hnone.symm) hheaders)

/-- The encoding and the reader are asked for, the stream is refused then, and the user logs out: the headers
other than the content type are the same, and the content. -/
theorem hosted_code_is_confined_after_logout :
    let steps : List RequestStep := [.inl (.addHeader "X-Id" (.ofText "1")),
      .inl (.setContentType (some "text/plain")), .inl (.addHeader "Via" (.ofText "a")),
      .inl (.setContent (some [104, 105])), .inl (.assign .remoteUser (.ofText "me"))]
    let ops : List HostedRequestOp := [.setEncoding (some "UTF-8"), .getReader, .getStream,
      .setAttribute (.ofText "seen") (.bool true), .logout, .unsupported .login]
    ∃ r, Request.new .null .null ⟨.empty⟩ = .ok r ∧
      let start := (request 2024).after steps r
      let s := afterHosted 2024 ops start
      s.contentType = some ⟨.own .contentType, "text/plain;charset=UTF-8"⟩ ∧
      s.headers.others "Content-Type" = start.headers.others "Content-Type" ∧
      s.body.content = start.body.content ∧
      ∃ detail, (request 2024).run (.inr (.unsupported .login)) s =
        ⟨s, [], .error (.unsupported "login" detail)⟩ := by
  intro steps ops
  refine ⟨_, rfl, ?_⟩
  intro start s
  have reachable : start.Reachable 2024 := Reachable.after (.start ⟨.null, .null, ⟨.empty⟩, rfl⟩) steps
  obtain ⟨confined, -, -, -, -, -, refused⟩ := hosted_code_is_confined 2024 reachable ops
  obtain ⟨detail, hrefused, -⟩ := refused .login
  exact ⟨by decide +kernel, confined.headers_eq, confined.content_eq, detail, hrefused⟩

end Subject

end HttpExchange

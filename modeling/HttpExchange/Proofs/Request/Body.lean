import HttpExchange.Proofs.Body.Accessors
import HttpExchange.Proofs.Request.Footprint

/-!
# The body of a request

A request passes what concerns its content on to its body, and a body by itself is passed everything. So for
both it is told by the calls since content was last set how the content has been handed out.

## Main statements

* `RequestOp.run_eq_onBody`: the operations that a request passes on to its body.
* `BodyView.isFaithful_ofBody`, `BodyView.isFaithful_ofRequest`: nothing else changes the body.
* `Subject.content_handed_out_one_way`: content is handed out as a byte stream or as a reader.
-/

namespace HttpExchange

open HttpExchange.Action

namespace Request

theorem onBody_eq {α : Type} (x : Action IncomingBody LogRecord α) (r : Request) :
    onBody x r = ⟨{ r with body := (x r.body).state }, (x r.body).events, (x r.body).result⟩ := by
  simp [onBody, within]

/-- Two steps on the body one after the other are one action on it. -/
theorem onBody_bind {α β : Type} (x : Action IncomingBody LogRecord α)
    (f : α → Action IncomingBody LogRecord β) (r : Request) :
    (onBody x >>= fun a => onBody (f a)) r = onBody (x >>= f) r := by
  rw [onBody_eq (x >>= f)]
  cases h : (x r.body).result with
  | error fault =>
    have whole : (onBody x r).result = .error fault := h
    rw [bind_of_error whole, bind_of_error h, onBody_eq]
  | ok a =>
    have whole : (onBody x r).result = .ok a := h
    rw [bind_of_ok whole, bind_of_ok h, onBody_eq x, onBody_eq]

theorem onBody_bind_pure {α β : Type} (x : Action IncomingBody LogRecord α) (f : α → β) (r : Request) :
    (onBody x >>= fun a => pure (f a)) r = onBody (x >>= fun a => pure (f a)) r :=
  onBody_bind x (fun a => pure (f a)) r

theorem getReader_eq_onBody (r : Request) :
    getReader r = onBody (IncomingBody.getReader r.readerEncoding) r := rfl

end Request

namespace RequestOp

/-- The operation on the body that an operation on a request is, if it is one. The reader is one of the
encoding that the request has by then. -/
def bodyOp? (r : Request) : RequestOp → Option IncomingBodyOp
  | .setContent bs => some (.setContent bs)
  | .getStream => some .getStream
  | .getReader => some (.getReader r.readerEncoding)
  | .stream op => some (.stream op)
  | .reader op => some (.reader r.readerEncoding op)
  | .heldStream n op => some (.heldStream n op)
  | .heldReader n op => some (.heldReader n op)
  | .read .content => some .content
  | .read .bodyUse => some .consumption
  | _ => none

theorem run_eq_onBody {thisYear : Int} {op : RequestOp} {r : Request} {o : IncomingBodyOp}
    (h : op.bodyOp? r = some o) : op.run thisYear r = Request.onBody o.run r := by
  cases op with
  | setContent bs => cases h; rfl
  | getStream =>
    cases h
    exact Request.onBody_bind_pure IncomingBody.getStream (fun n => Answer.handle (.stream n)) r
  | getReader =>
    cases h
    exact (bind_congr r.getReader_eq_onBody _).trans
      (Request.onBody_bind_pure _ (fun n => Answer.handle (.reader n)) r)
  | stream op => cases h; exact Request.onBody_bind _ _ r
  | reader op =>
    cases h
    exact (bind_congr r.getReader_eq_onBody _).trans (Request.onBody_bind _ _ r)
  | heldStream n op | heldReader n op => cases h; rfl
  | read p => cases p <;> cases h <;> rfl
  | _ => cases h

theorem body_notMem_footprint {op : RequestOp} {r : Request} (h : op.bodyOp? r = none) :
    .body ∉ op.footprint := by
  cases op with
  | setContent | getStream | getReader | stream | reader | heldStream | heldReader => cases h
  | assign p => cases p <;> simp [footprint]
  | headers op =>
    by_cases hop : (op.isOnValues || op.event?.isSome) = true <;> simp [footprint, hop]
  | _ => simp [footprint]

end RequestOp

namespace BodyView

/-- A body by itself. -/
def ofBody : BodyView IncomingBody IncomingBodyOp where
  body := id
  replace _ b := b
  op? op _ := some op

theorem isFaithful_ofBody : ofBody.IsFaithful Subject.incomingBody where
  body_replace _ _ := rfl
  replace_body _ := rfl
  run_of_op? op b o h := by
    cases h
    simp [within, ofBody, Subject.incomingBody]
  body_of_op? _ _ h := by cases h

/-- The body of a request. -/
def ofRequest : BodyView Request Subject.RequestStep where
  body := Request.body
  replace r b := { r with body := b }
  op? step r := (Subject.RequestStep.op? step).bind (·.bodyOp? r)

theorem isFaithful_ofRequest (thisYear : Int) : ofRequest.IsFaithful (Subject.request thisYear) where
  body_replace _ _ := rfl
  replace_body _ := rfl
  run_of_op? step r o h := by
    obtain ⟨op, hop, ho⟩ := Option.bind_eq_some_iff.1 h
    rw [Subject.RequestStep.performs.run_of_op hop]
    exact RequestOp.run_eq_onBody ho
  body_of_op? step r h := by
    cases hop : Subject.RequestStep.op? step with
    | none =>
      rw [Subject.RequestStep.performs.state_of_op hop]
    | some op =>
      rw [Subject.RequestStep.performs.run_of_op hop]
      have apart : op.bodyOp? r = none := by
        change (Subject.RequestStep.op? step).bind _ = none at h
        rwa [hop] at h
      exact (op.keeps_sameApart r).body_eq (RequestOp.body_notMem_footprint apart)

end BodyView

theorem Request.contentLength_eq (r : Request) :
    r.contentLength = r.body.bytes?.elim (-1 : Int) fun bs => bs.length := by
  unfold contentLength
  cases r.body.bytes? <;> rfl

namespace Subject

/-- Content is handed out as a byte stream or as a reader, by a body as by a request, whatever else is done
and whether it fails or not. -/
theorem content_handed_out_one_way (thisYear : Int) :
    (∀ content ops, incomingBody.HandsOut .ofBody
      (.set content :: incomingBody.log BodyView.ofBody.event? ops (.ofContent content))
      (incomingBody.after ops (.ofContent content))) ∧
    ∀ r : Request, r.IsNew → ∀ steps,
      let log := .set none :: (request thisYear).log BodyView.ofRequest.event? steps r
      let s := (request thisYear).after steps r
      (request thisYear).HandsOut .ofRequest log s ∧
        ∀ step, RequestStep.op? step = some (.read .contentLength) → (request thisYear).run step s =
          ⟨s, [], .ok (.int ((BodyLog.content log).elim (-1) fun bs => bs.length))⟩ := by
  refine ⟨fun content ops => .after BodyView.isFaithful_ofBody rfl ops, fun r hr steps => ?_⟩
  obtain ⟨d, -, -, -, hbody⟩ := hr.exists_locale
  have handsOut := HandsOut.after (BodyView.isFaithful_ofRequest thisYear) hbody steps
  refine ⟨handsOut, fun step hstep => ?_⟩
  rw [RequestStep.performs.run_of_op hstep, ← handsOut.bytes?_eq]
  exact congrArg (fun n : Int => Outcome.mk _ [] (.ok (Answer.int n))) (Request.contentLength_eq _)

/-- Once a reader was handed out, it stays so although the encoding that is set is not known. -/
theorem content_handed_out_one_way_after_unknown_encoding :
    let steps : List RequestStep := [.inl (.setContent (some [104, 105])), .inl .getReader,
      .inl (.setEncoding (some "unknown")), .inl (.reader (.read (some 1)))]
    ∃ r, Request.new .null .null ⟨.empty⟩ = .ok r ∧
      let s := (request 2024).after steps r
      (request 2024).run (.inr .getReader) s = ⟨s, [], .ok (.handle (.reader 0))⟩ ∧
        ∃ fault, (request 2024).run (.inl .getStream) s = ⟨s, [], .error fault⟩ ∧ fault.kind = .state := by
  intro steps
  refine ⟨_, rfl, ?_⟩
  obtain ⟨handsOut, -⟩ := (content_handed_out_one_way 2024).2 _ ⟨.null, .null, ⟨.empty⟩, rfl⟩ steps
  have given := handsOut.same_reader 0 (by decide +kernel)
  have refused := handsOut.no_stream 0 (by decide +kernel)
  exact ⟨given _ _ rfl, refused _ rfl⟩

end Subject

end HttpExchange

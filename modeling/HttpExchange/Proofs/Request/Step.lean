import HttpExchange.Proofs.Config
import HttpExchange.Proofs.Headers
import HttpExchange.Session.Subject

/-!
# Steps of a request

What adding a header does, case by case, and to which operation on a request each one of hosted code amounts.
-/

namespace HttpExchange

/-- Lists of languages have to do with the locales and the headers only. -/
theorem Request.keeps_addLanguages {R : Request → Request → Prop} (refl : ∀ r, R r r)
    (trans : ∀ r s t, R r s → R s t → R r t) {name : String} {v : Value}
    (follow : ∀ r ls, ls ≠ [] → R r (r.withLocales ls))
    (store : ∀ r, R r { r with headers := r.headers.put name v true }) : (addLanguages name v).Keeps R := by
  have stores : (Action.modify fun r : Request => { r with headers := r.headers.put name v true } :
      Action Request LogRecord Unit).Keeps R := Action.keeps_modify store
  unfold addLanguages
  rcases Language.readPreferences v.display with fault | _ | ⟨l, ls⟩
  · exact Action.Keeps.bind trans refl fun _ => stores
  · refine Action.Keeps.bind trans (Action.keeps_update refl fun r s hs => ?_) fun _ => stores
    obtain ⟨l, -, rfl⟩ := map_eq_ok_iff.1 hs
    exact follow r [l] (List.cons_ne_nil _ _)
  · refine Action.Keeps.bind trans (Action.keeps_modify fun r => ?_) fun _ => stores
    exact follow r (l :: ls) (List.cons_ne_nil _ _)

/-- Is a header of this name the content type, and the first one? -/
def Request.IsFirstType (r : Request) (name : String) : Prop :=
  lowerCase name = lowerCase contentTypeHeader ∧ r.headers.has contentTypeHeader = false

/-- All that adding a header can do: a missing value is refused, the first content type is adopted, languages are
followed, and anything else is stored. -/
theorem Request.addHeader_inv (name : String) (v : Value) (r : Request) :
    v = .null ∧ addHeader name v r = ⟨r, [], .error (.headerValueMissing name)⟩ ∨
    v ≠ .null ∧
      (r.IsFirstType name ∧ addHeader name v r = ⟨r.adoptContentType (v.displayedAt .contentType), [], .ok ()⟩ ∨
      ¬ r.IsFirstType name ∧ lowerCase name = lowerCase acceptLanguageHeader ∧
        addHeader name v r = addLanguages name v r ∨
      ¬ r.IsFirstType name ∧ lowerCase name ≠ lowerCase acceptLanguageHeader ∧
        addHeader name v r = ⟨{ r with headers := r.headers.put name v false }, [], .ok ()⟩) := by
  generalize hadd : addHeader name v r = o
  unfold addHeader at hadd
  rw [Action.bind_of_ok (x := Action.get) rfl] at hadd
  split at hadd
  · exact .inl ⟨rfl, hadd.symm⟩
  · next hv =>
    refine .inr ⟨hv, ?_⟩
    split at hadd
    · next h => exact .inl ⟨⟨h.1, by simpa using h.2⟩, hadd.symm⟩
    · next h =>
      have later : ¬ r.IsFirstType name := fun hfirst => h ⟨hfirst.1, by simpa using hfirst.2⟩
      split at hadd
      · next hname => exact .inr (.inl ⟨later, hname, hadd.symm⟩)
      · next hname => exact .inr (.inr ⟨later, hname, hadd.symm⟩)

/-- The operation on the request to which one of hosted code is passed on. The others are answered or
refused without asking the request. -/
def HostedRequestOp.passedOn : HostedRequestOp → Option RequestOp
  | .read p => some (.read p)
  | .header name => some (.header name)
  | .headerTexts name => some (.headerTexts name)
  | .headerNames => some .headerNames
  | .headerInteger name => some (.headerInteger name)
  | .headerDate name => some (.headerDate name)
  | .setEncoding encoding => some (.setEncoding encoding)
  | .getStream => some .getStream
  | .getReader => some .getReader
  | .part name => some (.part name)
  | .parts => some .parts
  | .parameter name => some (.parameters (.get name .null))
  | .parameterNames => some (.parameters .names)
  | .parameterValues name => some (.parameters (.valuesOf name))
  | .parameterMap => some (.parameters .toMap)
  | .attribute name => some (.attributes (.get name .null))
  | .attributeNames => some (.attributes .names)
  | .setAttribute name value => some (.attributes (.set name value))
  | .removeAttribute name => some (.attributes (.remove name))
  | .session => some .session
  | .logout => some .logout
  | .asyncContext | .model | .literal | .unsupported _ => none

theorem HostedRequestOp.run_of_passedOn {thisYear : Int} {op : HostedRequestOp} {o : RequestOp}
    (h : op.passedOn = some o) : op.run thisYear = o.run thisYear := by
  cases op <;> cases h <;> rfl

/-- What is not passed on does not change the request. -/
theorem HostedRequestOp.state_of_passedOn {thisYear : Int} {op : HostedRequestOp}
    (h : op.passedOn = none) (r : Request) : (op.run thisYear r).state = r := by
  cases op <;> cases h <;> rfl

namespace Subject

/-- The operation on the request that a step is, directly or through the view of hosted code. -/
def RequestStep.op? : RequestStep → Option RequestOp
  | .inl op => some op
  | .inr op => op.passedOn

theorem RequestStep.performs {thisYear : Int} :
    (Subject.request thisYear).Performs RequestStep.op? (RequestOp.run thisYear) :=
  .of_passedOn (fun _ => ⟨rfl, rfl⟩) HostedRequestOp.run_of_passedOn HostedRequestOp.state_of_passedOn

end Subject

/-- A request as it is made. -/
def Request.IsNew (r : Request) : Prop := ∃ method uri config, Request.new method uri config = .ok r

/-- A new request has no content, no headers and one locale, that of its configuration. -/
theorem Request.IsNew.exists_locale {r : Request} (h : r.IsNew) : ∃ d, r.config.locale = .ok d ∧
    r.locales = [⟨.own (.locale 0), d⟩] ∧ r.headers = .empty ∧ r.body = .ofContent none := by
  obtain ⟨method, uri, config, hnew⟩ := h
  unfold Request.new at hnew
  cases hd : config.locale with
  | error fault =>
    rw [hd] at hnew
    cases hnew
  | ok d =>
    rw [hd] at hnew
    cases hnew
    exact ⟨d, hd, rfl, rfl, rfl⟩

/-- A new request has no content type and no parts. -/
theorem Request.IsNew.unset {r : Request} (h : r.IsNew) : r.contentType = none ∧ r.parts = .empty := by
  obtain ⟨method, uri, config, hnew⟩ := h
  unfold Request.new at hnew
  cases hd : config.locale with
  | error fault =>
    rw [hd] at hnew
    cases hnew
  | ok d =>
    rw [hd] at hnew
    cases hnew
    exact ⟨rfl, rfl⟩

theorem Request.IsNew.contentType_eq {r : Request} (h : r.IsNew) : r.contentType = none := h.unset.1

/-- A request that steps lead to. -/
def Request.Reachable (thisYear : Int) : Request → Prop :=
  (Subject.request thisYear).Reachable Request.IsNew

end HttpExchange

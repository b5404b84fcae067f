import HttpExchange.Proofs.ContentType.Coupling
import HttpExchange.Proofs.ContentType.Named
import HttpExchange.Proofs.Response.Text

/-!
# The content type of a response, its header and its encoding

Three things are kept about the type of a response: the content type, the header that shows it, and the
encoding if it is explicit. Runs that leave the header to the response keep the three together: the header
shows the content type; an encoding that is not explicit is that of the configuration, and no charset is named
then; and an explicit encoding is written into the content type.

It is written where a charset parameter seems to be. If it is one, there is a charset parameter afterwards; but
the place may as well be inside of the value of another parameter.

## Main statements

* `Coupling.Settled.apply`, `ResponseOp.showsType_run`: each operation keeps the three together.
* `Subject.contentType_shown`: the three after any run.
-/

namespace HttpExchange

/-! ## Content type and encoding -/

namespace Coupling

open ContentType

/-- Without an encoding the content type names no charset, and one that is in force was written into it. Where
all content types that are set have a charset parameter to write to, the present one has. -/
structure Settled (named : Prop) (c : Coupling) : Prop where
  quiet : c.encoding = none → ∀ ct, c.contentType = some ct → ownCharset? ct = none
  written : ∀ ct e, c.contentType = some ct → c.encoding = some e → e ≠ "" →
    ∃ given, ct = withCharset given (some e) ∧ (named → NamesCharset given)
  names : named → ∀ ct, c.contentType = some ct → NamesCharset ct

variable {named : Prop} {c : Coupling}

theorem settled_none (encoding : Option String) : Settled named ⟨none, encoding⟩ where
  quiet _ _ hct := by cases hct
  written _ _ hct := by cases hct
  names _ _ hct := by cases hct

theorem Settled.apply (h : c.Settled named) {change : Change}
    (hnamed : named → ∀ ct, change = .adopt ct → NamesCharset ct) : (c.apply change).Settled named := by
  cases change with
  | forget => exact settled_none c.encoding
  | reset => exact settled_none none
  | adopt given =>
    rw [apply_adopt]
    refine ⟨fun hnone ct hct => ?_, fun ct e hct he hne => ?_, fun hall ct hct => ?_⟩
    · obtain ⟨hown, -⟩ := Option.or_eq_none_iff.1 hnone
      obtain rfl := Option.some.inj hct
      dsimp only at hnone
      rw [hnone]
      exact hown
    · obtain rfl := Option.some.inj hct
      dsimp only at he
      rw [he]
      exact ⟨given, rfl, fun hall => hnamed hall given rfl⟩
    · obtain rfl := Option.some.inj hct
      exact namesCharset_withCharset (hnamed hall given rfl) _
  | encode e =>
    rw [apply_encode]
    refine ⟨fun hnone => (by cases hnone), fun ct e' hct he hne => ?_, fun hall ct hct => ?_⟩
    · obtain ⟨given, hgiven, rfl⟩ := Option.map_eq_some_iff.1 hct
      obtain rfl := Option.some.inj he
      exact ⟨given, rfl, fun hall => h.names hall given hgiven⟩
    · obtain ⟨given, hgiven, rfl⟩ := Option.map_eq_some_iff.1 hct
      exact namesCharset_withCharset (h.names hall given hgiven) _

theorem Settled.charset?_eq_none_or (h : c.Settled named) {ct : String} (hct : c.contentType = some ct)
    (he : c.encoding = none) : charset? ct = none ∨ charset? ct = some "" := by
  have own := h.quiet he ct hct
  unfold ownCharset? at own
  cases hcharset : charset? ct with
  | none => exact .inl rfl
  | some charset =>
    rw [hcharset, Option.filter_eq_none_iff] at own
    have hempty : charset = "" := by simpa using own charset
    exact .inr (by rw [hempty])

/-- The encoding stands behind a charset key, which need not be the name of a parameter. -/
theorem Settled.exists_key (h : c.Settled named) {ct e : String} (hct : c.contentType = some ct)
    (he : c.encoding = some e) (hne : e ≠ "") :
    ∃ front key rest, ct.toList = front ++ key ++ e.toList ++ rest ∧ IsIntro key := by
  obtain ⟨given, rfl, -⟩ := h.written ct e hct he hne
  obtain ⟨front, key, hbefore, hkey⟩ := exists_intro_slotOf given
  exact ⟨front, key, (slotOf given).after, by rw [toList_withCharset given hne, Slot.fill, hbefore], hkey⟩

theorem Settled.isSome_charset? (h : c.Settled named) (hnamed : named) {ct e : String}
    (hct : c.contentType = some ct) (he : c.encoding = some e) (hne : e ≠ "") : (charset? ct).isSome := by
  obtain ⟨given, rfl, hgiven⟩ := h.written ct e hct he hne
  exact isSome_charset?_withCharset (hgiven hnamed) hne

end Coupling

/-! ## The header -/

/-- Does an operation write the header of that name, in whichever case? -/
def ResponseOp.WritesTo (name : String) : ResponseOp → Prop
  | .setHeader n v | .addHeader n v => lowerCase n = lowerCase name ∧ v ≠ .null
  | .setIntHeader n v | .addIntHeader n v => lowerCase n = lowerCase name ∧ ∃ k, v.toInteger = .ok k
  | .setDateHeader n v | .addDateHeader n v => lowerCase n = lowerCase name ∧ ∃ s, HttpDate.write v = .ok s
  | .headers op => op.WritesTo name
  | _ => False

/-- Does an operation remove the header of that name? -/
def ResponseOp.RemovesFrom (name : String) : ResponseOp → Prop
  | .headers op => op.RemovesFrom name
  | _ => False

namespace Response

/-- A content type is the first value of its header, which may be absent if `removed`. -/
def ShowsType (removed : Prop) (r : Response) : Prop :=
  ∀ ct, r.contentType = some ct → r.headers.first? responseTypeHeader = some ct.text ∨
    removed ∧ r.headers.first? responseTypeHeader = none

variable {removed : Prop} {r : Response}

/-- Other headers do not matter. -/
theorem ShowsType.of_same {r' : Response} (h : r.ShowsType removed)
    (first_eq : r'.headers.first? responseTypeHeader = r.headers.first? responseTypeHeader)
    (contentType_eq : r'.contentType = r.contentType) : r'.ShowsType removed := by
  intro ct hct
  rw [first_eq]
  exact h ct (contentType_eq ▸ hct)

theorem showsType_of_none (h : r.contentType = none) : r.ShowsType removed := by
  intro ct hct
  rw [h] at hct
  cases hct

theorem showsType_of_coupling (h : r.coupling.contentType = none) : r.ShowsType removed :=
  showsType_of_none (Option.map_eq_none_iff.1 h)

theorem showsType_syncContentType (r : Response) : r.syncContentType.ShowsType removed := by
  unfold syncContentType
  cases hct : r.contentType with
  | none => exact showsType_of_none hct
  | some ct =>
    intro shown hshown
    obtain rfl := Option.some.inj hshown
    exact .inl (Headers.first?_putAs_text r.headers ⟨.unique, responseTypeHeader⟩ _ _)

theorem showsType_setContentType (ct : Option String) : (r.setContentType ct).ShowsType removed := by
  cases ct with
  | none => exact showsType_of_none rfl
  | some ct => exact showsType_syncContentType _

theorem showsType_setEncoding {encoding : Option String} {s : Response} (hs : r.setEncoding encoding = .ok s) :
    s.ShowsType removed := by
  cases encoding with
  | none => cases hs
  | some e =>
    obtain rfl := Except.ok.inj hs
    exact showsType_syncContentType _

theorem showsType_writeHeader (h : r.ShowsType removed) {name : String} {v : Value}
    (hw : ¬ (lowerCase name = lowerCase responseTypeHeader ∧ v ≠ .null)) (replace : Bool) :
    (r.writeHeader name v replace).ShowsType removed := by
  unfold writeHeader
  split
  · exact h
  · next hv =>
    have hne : lowerCase name ≠ lowerCase responseTypeHeader := fun hname => hw ⟨hname, hv⟩
    exact h.of_same (Headers.first?_put_of_ne r.headers hne v replace) rfl

theorem showsType_assign (h : r.ShowsType removed) {p : ResponseProperty} {v : Value} {s : Response}
    (hs : r.assign p v = .ok s) : s.ShowsType removed := by
  have apart := sameApart_assign hs
  cases p with
  | contentType =>
    cases v with
    | null | text =>
      obtain rfl := Except.ok.inj hs
      exact showsType_setContentType _
    | _ => cases hs
  | encoding =>
    cases v with
    | text m e =>
      have set : r.setEncoding (some e) = .ok s := hs
      exact showsType_setEncoding set
    | _ => cases hs
  | _ =>
    have headers_eq : s.headers = r.headers := apart.same .headers (by simp [ResponseOp.footprint])
    have type_eq : s.contentType = r.contentType := apart.same .contentType (by simp [ResponseOp.footprint])
    exact h.of_same (by rw [headers_eq]) type_eq

theorem showsType_sendRedirect (h : r.ShowsType removed) (url : Option String) :
    (sendRedirect url r).state.ShowsType removed := by
  have hne : lowerCase locationHeader ≠ lowerCase responseTypeHeader := by decide +kernel
  rw [sendRedirect_eq]
  split
  · exact h
  · cases url with
    | none => exact h
    | some url => exact h.of_same (Headers.first?_putAs_of_ne r.headers ⟨.unique, locationHeader⟩ hne _ _) rfl

theorem showsType_setLocale (h : r.ShowsType removed) (l : Option Locale) :
    (r.setLocale l).ShowsType removed := by
  have hne : lowerCase contentLanguageHeader ≠ lowerCase responseTypeHeader := by decide +kernel
  cases l with
  | none => exact h
  | some l =>
    exact h.of_same (Headers.first?_putAs_of_ne r.headers ⟨.unique, contentLanguageHeader⟩ hne _ _) rfl

end Response

namespace ResponseOp

open Response

variable {removed : Prop}

theorem showsType_run {thisYear : Int} {op : ResponseOp} (hw : ¬ op.WritesTo responseTypeHeader)
    (hr : op.RemovesFrom responseTypeHeader → removed) {r : Response} (h : r.ShowsType removed) :
    (op.run thisYear r).state.ShowsType removed := by
  have updated {f : Response → Except Fault Response}
      (hf : ∀ r s, f r = .ok s → r.ShowsType removed → s.ShowsType removed) :
      (Action.update f r : Outcome Response LogRecord Unit).state.ShowsType removed :=
    Action.keeps_update (R := fun r s => r.ShowsType removed → s.ShowsType removed) (fun _ => id) hf r h
  have apart : r.SameApart op.footprint (op.run thisYear r).state := op.keeps_sameApart r
  have other (hh : .headers ∉ op.footprint) (hct : .contentType ∉ op.footprint) :
      (op.run thisYear r).state.ShowsType removed := by
    have headers_eq : (op.run thisYear r).state.headers = r.headers := apart.same .headers hh
    exact h.of_same (by rw [headers_eq]) (apart.same .contentType hct)
  cases op with
  | setHeader name v | addHeader name v =>
    rw [run, Action.state_silently]
    exact showsType_writeHeader h hw _
  | setIntHeader name v | addIntHeader name v =>
    rw [run, Action.state_silently]
    refine updated fun r s hs h => ?_
    obtain ⟨k, hk, rfl⟩ := map_eq_ok_iff.1 hs
    exact showsType_writeHeader h (fun hname => hw ⟨hname.1, k, hk⟩) _
  | setDateHeader name v | addDateHeader name v =>
    rw [run, Action.state_silently]
    refine updated fun r s hs h => ?_
    obtain ⟨text, htext, rfl⟩ := map_eq_ok_iff.1 hs
    exact showsType_writeHeader h (fun hname => hw ⟨hname.1, text, htext⟩) _
  | sendRedirect url =>
    rw [run, Action.state_silently]
    exact showsType_sendRedirect h url
  | setContentType ct =>
    rw [run, Action.state_silently]
    exact showsType_setContentType ct
  | setEncoding e =>
    rw [run, Action.state_silently]
    exact updated fun r s hs _ => showsType_setEncoding hs
  | setLocale l =>
    rw [run, Action.state_silently]
    exact showsType_setLocale h l
  | assign p v =>
    rw [run, Action.state_silently]
    exact updated fun r s hs h => showsType_assign h hs
  | reset =>
    rw [run, Action.state_silently]
    exact showsType_of_coupling (by rw [coupling_reset])
  | headers op =>
    intro ct hct
    have first : ((ResponseOp.headers op).run thisYear r).state.headers =
        ((Subject.headers thisYear).run op r.headers).state := rfl
    rw [first]
    rcases HeadersOp.first?_run thisYear hw r.headers with same | ⟨hremoves, hnone⟩
    · rw [same]
      exact h ct hct
    · exact .inr ⟨hr hremoves, hnone⟩
  | body op => exact other (by rw [footprint]; split <;> simp) (by rw [footprint]; split <;> simp)
  | _ => exact other (by simp [footprint]) (by simp [footprint])

end ResponseOp

/-! ## Answers -/

namespace Response

variable {r : Response}

theorem coupling_of_read_contentType {m : Mark} {ct : String}
    (h : r.read .contentType = .ok (.value (.text m ct))) : r.coupling.contentType = some ct := by
  have read : Thing.text? r.contentType = .text m ct := Answer.value.inj (Except.ok.inj h)
  cases htype : r.contentType with
  | none =>
    rw [htype] at read
    cases read
  | some t =>
    rw [htype] at read
    cases read
    simp [coupling, htype]

theorem encoding_of_read_explicit (h : r.read .encodingExplicit = .ok (.bool false)) : r.encoding = none := by
  have explicit : r.encoding.isSome = false := Value.bool.inj (Answer.value.inj (Except.ok.inj h))
  simpa using explicit

theorem coupling_of_read_encoding {m : Mark} {e : String}
    (hexplicit : r.read .encodingExplicit = .ok (.bool true)) (h : r.read .encoding = .ok (.value (.text m e))) :
    r.coupling.encoding = some e := by
  have explicit : r.encoding.isSome = true := Value.bool.inj (Answer.value.inj (Except.ok.inj hexplicit))
  have read : r.encodingValue = .text m e := Answer.value.inj (Except.ok.inj h)
  obtain ⟨t, ht⟩ := Option.isSome_iff_exists.1 explicit
  unfold encodingValue at read
  rw [ht] at read
  cases read
  simp [coupling, encodingName, ht]

/-- The answers to the questions for the content type and for its header. -/
theorem ShowsType.result_header {removed : Prop} (h : r.ShowsType removed) (thisYear : Int) {ct : Value}
    (hct : r.read .contentType = .ok (.value ct)) (hne : ct ≠ .null) :
    ((ResponseOp.header responseTypeHeader).run thisYear r).result = .ok (.value ct) ∨
      ((ResponseOp.header responseTypeHeader).run thisYear r).result = .ok (.value .null) ∧ removed := by
  have read : Thing.text? r.contentType = ct := Answer.value.inj (Except.ok.inj hct)
  cases htype : r.contentType with
  | none =>
    rw [htype] at read
    exact absurd read.symm hne
  | some t =>
    rw [htype] at read
    subst read
    rcases h t htype with hfirst | ⟨hremoved, hfirst⟩
    · exact .inl (Action.result_within_atomic (Headers.run_get_of_first? hfirst thisYear))
    · exact .inr ⟨Action.result_within_atomic (Headers.run_get_of_first?_eq_none hfirst thisYear), hremoved⟩

end Response

/-! ## Runs -/

namespace Subject

open Response ContentType

variable {thisYear : Int} {r : Response} {steps : List ResponseStep}

theorem settled_after {named : Prop} (h : r.coupling.Settled named)
    (hnamed : named → ∀ step ∈ steps, ∀ op, step.op? = some op → ∀ ct, op.change? = some (.adopt ct) →
      NamesCharset ct) :
    ((Subject.response thisYear).after steps r).coupling.Settled named := by
  refine after_induction (R := fun r s : Response => r.coupling.Settled named → s.coupling.Settled named)
    (fun _ => id) (fun _ _ _ h h' => h' ∘ h) (fun step hstep => ?_) r h
  refine ResponseStep.performs.keeps_of_op (fun _ => id) fun op hop r h => ?_
  rw [op.coupling_run_eq]
  cases hchange : op.change? with
  | none => exact h
  | some change =>
    refine h.apply fun all ct hadopt => ?_
    subst hadopt
    exact hnamed all step hstep op hop ct hchange

theorem showsType_after_response {removed : Prop} (h : r.ShowsType removed)
    (hwrites : ∀ step ∈ steps, ∀ op, step.op? = some op → ¬ op.WritesTo responseTypeHeader)
    (hremoves : ∀ step ∈ steps, ∀ op, step.op? = some op → op.RemovesFrom responseTypeHeader → removed) :
    ((Subject.response thisYear).after steps r).ShowsType removed :=
  after_induction (R := fun r s : Response => r.ShowsType removed → s.ShowsType removed)
    (fun _ => id) (fun _ _ _ h h' => h' ∘ h)
    (fun step hstep => ResponseStep.performs.keeps_of_op (fun _ => id) fun op hop _ h =>
      ResponseOp.showsType_run (hwrites step hstep op hop) (hremoves step hstep op hop) h) r h

/-- After any run of a new response in which no operation writes the header of the content type by its name,
failed operations included: a content type is what the response gives as this header, unless the header was
removed; as long as the encoding is not explicit, it is that of the configuration, and the content type names
no other; and an explicit encoding stands in the content type behind a charset key. If each content type that
was set has a charset parameter, or else gets one when a charset is added, then so has the present one. -/
theorem contentType_shown (thisYear : Int) {r : Response} (hnew : r.IsNew) (steps : List ResponseStep)
    (hsteps : ∀ step ∈ steps, ∀ op, step.op? = some op → ¬ op.WritesTo "Content-Type") :
    let s := (Subject.response thisYear).after steps r
    let answer (op : ResponseOp) := ((Subject.response thisYear).run (.inl op) s).result
    (∀ ct, answer (.read .contentType) = .ok (.value ct) → ct ≠ .null →
      answer (.header "Content-Type") = .ok (.value ct) ∨
        answer (.header "Content-Type") = .ok (.value .null) ∧
          ∃ step ∈ steps, ∃ op, step.op? = some op ∧ op.RemovesFrom "Content-Type") ∧
    (answer (.read .encodingExplicit) = .ok (.bool false) →
      answer (.read .encoding) = .ok (.value s.config.charset) ∧
      ∀ m ct, answer (.read .contentType) = .ok (.value (.text m ct)) →
        charset? ct = none ∨ charset? ct = some "") ∧
    (answer (.read .encodingExplicit) = .ok (.bool true) → ∀ m ct m' e,
      answer (.read .contentType) = .ok (.value (.text m ct)) →
      answer (.read .encoding) = .ok (.value (.text m' e)) → e ≠ "" →
      (∃ front key rest, ct.toList = front ++ key ++ e.toList ++ rest ∧ IsIntro key) ∧
      ((∀ step ∈ steps, ∀ op, step.op? = some op → ∀ given, op.change? = some (.adopt given) →
        NamesCharset given) → (charset? ct).isSome)) := by
  intro s answer
  obtain ⟨config, hconfig⟩ := hnew
  obtain ⟨l, n, -, rfl⟩ := exists_initial_of_new hconfig
  have reached : Response.Reachable thisYear s := Reachable.after (.start ⟨config, hconfig⟩) steps
  have settled : s.coupling.Settled (∀ step ∈ steps, ∀ op, step.op? = some op → ∀ given,
      op.change? = some (.adopt given) → NamesCharset given) :=
    settled_after (Coupling.settled_none none) fun all step hstep op hop => all step hstep op hop
  have shows : s.ShowsType (∃ step ∈ steps, ∃ op, step.op? = some op ∧ op.RemovesFrom "Content-Type") :=
    showsType_after_response (showsType_of_none rfl) hsteps
      fun step hstep op hop hremoves => ⟨step, hstep, op, hop, hremoves⟩
  refine ⟨fun ct hct hne => shows.result_header thisYear hct hne, fun hexplicit => ?_,
    fun hexplicit m ct m' e hct he hne => ?_⟩
  · have encoding := encoding_of_read_explicit hexplicit
    refine ⟨?_, fun m ct hct => ?_⟩
    · show Except.ok (Answer.value s.encodingValue) = _
      unfold encodingValue
      rw [encoding, reached.fallbackEncoding_eq]
    · exact settled.charset?_eq_none_or (coupling_of_read_contentType hct) (by
        unfold coupling encodingName
        rw [encoding]
        rfl)
  · have type_eq := coupling_of_read_contentType hct
    have encoding_eq := coupling_of_read_encoding hexplicit he
    exact ⟨settled.exists_key type_eq encoding_eq hne,
      fun all => settled.isSome_charset? all type_eq encoding_eq hne⟩

/-- The encoding comes after the type, and another header is written in between. -/
theorem contentType_shown_with_charset :
    let steps : List ResponseStep := [.inl (.setContentType (some "text/html")),
      .inr (.addHeader "X-Type" (.ofText "Content-Type")), .inl (.setEncoding (some "UTF-8"))]
    ∃ r, Response.new ⟨.empty⟩ = .ok r ∧
      let s := (Subject.response 2024).after steps r
      let ct := "text/html;charset=UTF-8"
      ((Subject.response 2024).run (.inl (.read .contentType)) s).result =
        .ok (.value (.text (.own .contentType) ct)) ∧
      ((Subject.response 2024).run (.inl (.header "Content-Type")) s).result =
        .ok (.value (.text (.own .contentType) ct)) ∧
      (charset? ct).isSome := by
  intro steps
  refine ⟨_, rfl, ?_⟩
  intro s ct
  have answers (r : Response) (htype : r.contentType = some ⟨.own .contentType, ct⟩)
      (hencoding : r.encoding = some ⟨.own .encoding, "UTF-8"⟩) :
      let answer (op : ResponseOp) := ((Subject.response 2024).run (.inl op) r).result
      answer (.read .contentType) = .ok (.value (.text (.own .contentType) ct)) ∧
      answer (.read .encodingExplicit) = .ok (.bool true) ∧
      answer (.read .encoding) = .ok (.value (.text (.own .encoding) "UTF-8")) := by
    refine ⟨congrArg (fun t => Except.ok (Answer.value (Thing.text? t))) htype,
      congrArg (fun t : Option (Thing String) => Except.ok (Answer.bool t.isSome)) hencoding, ?_⟩
    show Except.ok (Answer.value r.encodingValue) = _
    unfold encodingValue
    rw [hencoding]
    rfl
  obtain ⟨read, explicit, encoding⟩ := answers s (by decide +kernel) (by decide +kernel)
  have other : lowerCase "X-Type" ≠ lowerCase "Content-Type" := by decide +kernel
  obtain ⟨header, -, charset⟩ := contentType_shown 2024 ⟨⟨.empty⟩, rfl⟩ steps (by
    simp [steps, ResponseStep.op?, HostedResponseOp.passedOn, ResponseOp.WritesTo, other])
  refine ⟨read, ?_, (charset explicit _ ct _ _ read encoding (by decide)).2 ?_⟩
  · rcases header _ read Value.noConfusion with shown | ⟨-, removed⟩
    · exact shown
    · simp [steps, ResponseStep.op?, HostedResponseOp.passedOn, ResponseOp.RemovesFrom] at removed
  · have plain : NamesCharset "text/html" := namesCharset_of_slot?_eq_none (by decide +kernel)
    simpa [steps, ResponseStep.op?, HostedResponseOp.passedOn, ResponseOp.change?] using plain

/-- Not all content types do: the charset is written to the value of another parameter, whose name ends like
that of a charset. -/
theorem contentType_unnamed_of_longer_name :
    ∃ r, Response.new ⟨.empty⟩ = .ok r ∧
      let s := (Subject.response 2024).after [.inl (.setContentType (some "text/plain; x.charset=A")),
        .inl (.setEncoding (some "UTF-8"))] r
      s.contentType = some ⟨.own .contentType, "text/plain; x.charset=UTF-8"⟩ ∧
      s.encoding = some ⟨.own .encoding, "UTF-8"⟩ ∧
      charset? "text/plain; x.charset=UTF-8" = none :=
  ⟨_, rfl, by decide +kernel, by decide +kernel, by decide +kernel⟩

end Subject

end HttpExchange

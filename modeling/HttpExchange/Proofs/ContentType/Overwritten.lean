import HttpExchange.Proofs.ContentType.Again

/-!
# An encoding that is set over another one

The charset that a content type takes stands in one place, and a second charset looks for its place anew. It
finds the first one there and replaces it, if the first one ends where the text behind it begins. That is so
wherever a value ends before a semicolon, white space or the end; only behind a quoted string the text may go on
at once, and then becomes a part of what is written in front of it. So without quotation marks the encoding that
is set last is the only one that matters.

## Main statements

* `ContentType.isClosed_iff`: the content types in which the last of two tokens wins.
* `ContentType.isClosed_slotOf`: those without quotation marks are among them.
* `Subject.last_encoding_wins`: so it is for the encodings of requests and responses.
-/

namespace HttpExchange

namespace ContentType

open Text MediaType

variable {ct : String}

/-- The last of two tokens wins in all cases exactly if a value may end where that of the charset does. -/
theorem isClosed_iff : (slotOf ct).IsClosed ↔
    ∀ a b : String, isToken a.toList = true → isToken b.toList = true →
      withCharset (withCharset ct (some a)) (some b) = withCharset ct (some b) := by
  constructor
  · intro h a b ha hb
    exact withCharset_withCharset ha hb h
  · intro h
    -- A token that is written over itself is a value where it stands, and it is no quoted string.
    have token : isToken "x".toList = true := by decide +kernel
    have value : IsValue (slotOf ct).after ['x'] :=
      (withCharset_again_iff (by decide)).1 (h "x" "x" token token)
    cases value with
    | plain hv hrest hquote => exact hrest

/-- A value that is no quoted string ends before a semicolon, white space or the end. -/
theorem isClosed_slotOf (h : quotationMark ∉ ct.toList) : (slotOf ct).IsClosed := by
  unfold slotOf
  cases hslot : slot? true ct.toList with
  | none =>
    intro c hc
    cases hc
  | some s =>
    obtain ⟨⟨v, hv, hafter, -⟩, -⟩ := before_of_slot? hslot
    have unquoted : quotationMark ∉ v := fun hmem => h (hv ▸ List.mem_append_right _ hmem)
    have plain : dropParameterValue v = v.dropWhile fun c => !(c = ';' || isBlank c) :=
      dropParameterValue_plain fun hhead => absurd (List.mem_of_mem_head? hhead) unquoted
    intro c hc
    rw [Option.getD_some, hafter, plain] at hc
    have stopped := List.head?_dropWhile_not (fun c => !(c = ';' || isBlank c)) v
    rw [hc] at stopped
    simpa [or_iff_not_imp_left] using stopped

theorem renew_renew {t : Thing String} (ht : quotationMark ∉ t.content.toList) {a b : String}
    (ha : isToken a.toList = true) (hb : isToken b.toList = true) :
    renew (renew t (some a)) (some b) = renew t (some b) := by
  have renewed (s : Thing String) : renew s (some b) = ⟨.own .contentType, withCharset s.content (some b)⟩ :=
    if_neg (ne_empty_of_isToken hb)
  rw [renewed, renewed, content_renew, isClosed_iff.1 (isClosed_slotOf ht) a b ha hb]

end ContentType

theorem Headers.putUnique_putUnique (h : Headers) (name : String) (v w : Value) :
    (h.putUnique name v).putUnique name w = h.putUnique name w :=
  putAs_putAs h ⟨.unique, name⟩ v w

/-! ## Requests and responses -/

/-- Has the content type, if there is one, no quotation marks? -/
def Coupling.IsUnquoted (c : Coupling) : Prop :=
  ∀ ct, c.contentType = some ct → Text.quotationMark ∉ ct.toList

section Encodings

variable {a b : String} (ha : MediaType.isToken a.toList = true) (hb : MediaType.isToken b.toList = true)

include ha hb

theorem Request.setEncoding_setEncoding {r : Request} (hr : r.coupling.IsUnquoted) :
    (r.setEncoding (some a)).setEncoding (some b) = r.setEncoding (some b) := by
  unfold setEncoding syncContentType
  cases hct : r.contentType with
  | none => simp
  | some ct =>
    have unquoted := hr ct.content (congrArg (Option.map Thing.content) hct)
    simp [encodingName, Thing.ofText, ContentType.renew_renew unquoted ha hb, Headers.putUnique_putUnique]

theorem Response.setEncoding_setEncoding {r : Response} (hr : r.coupling.IsUnquoted) :
    ∃ s, r.setEncoding (some a) = .ok s ∧ s.setEncoding (some b) = r.setEncoding (some b) := by
  refine ⟨_, rfl, ?_⟩
  unfold setEncoding syncContentType
  cases hct : r.contentType with
  | none => simp
  | some ct =>
    have unquoted := hr ct.content (congrArg (Option.map Thing.content) hct)
    simp [encodingName, Thing.ofText, ContentType.renew_renew unquoted ha hb, Headers.putUnique_putUnique]

end Encodings

namespace Subject

open ContentType MediaType

/-- Of two tokens that are written into a content type without quotation marks, whether it is well formed or
not, the second one wins. So when two encodings are set on a request or a response with such a content type, or
with none, directly or by hosted code, all is as if the second one had been set alone. -/
theorem last_encoding_wins (thisYear : Int) {a b : String} (ha : isToken a.toList = true)
    (hb : isToken b.toList = true) :
    (∀ ct : String, Text.quotationMark ∉ ct.toList →
      withCharset (withCharset ct (some a)) (some b) = withCharset ct (some b)) ∧
    (∀ (r : Request) (first second : RequestStep), r.coupling.IsUnquoted →
      first.op? = some (.setEncoding (some a)) → second.op? = some (.setEncoding (some b)) →
      (Subject.request thisYear).run second ((Subject.request thisYear).run first r).state =
        (Subject.request thisYear).run second r) ∧
    ∀ (r : Response) (first second : ResponseStep), r.coupling.IsUnquoted →
      first.op? = some (.setEncoding (some a)) → second.op? = some (.setEncoding (some b)) →
      (Subject.response thisYear).run second ((Subject.response thisYear).run first r).state =
        (Subject.response thisYear).run second r := by
  refine ⟨fun ct hct => ?_, fun r first second hr hfirst hsecond => ?_, fun r first second hr hfirst hsecond => ?_⟩
  · exact isClosed_iff.1 (isClosed_slotOf hct) a b ha hb
  · rw [RequestStep.performs.run_of_op hfirst, RequestStep.performs.run_of_op hsecond]
    have last := Request.setEncoding_setEncoding ha hb hr
    exact congrArg (fun s => (⟨s, [], .ok .none⟩ : Outcome Request LogRecord Answer)) last
  · rw [ResponseStep.performs.run_of_op hfirst, ResponseStep.performs.run_of_op hsecond]
    obtain ⟨s, hs, last⟩ := Response.setEncoding_setEncoding ha hb hr
    have between : ((ResponseOp.setEncoding (some a)).run thisYear r).state = s :=
      congrArg Outcome.state (Action.update_bind_of_ok hs _)
    obtain ⟨t, ht⟩ : ∃ t, r.setEncoding (some b) = .ok t := ⟨_, rfl⟩
    have outcome (q : Response) (hq : q.setEncoding (some b) = .ok t) :
        (ResponseOp.setEncoding (some b)).run thisYear q = ⟨t, [], .ok .none⟩ := Action.update_bind_of_ok hq _
    rw [between, outcome s (last.trans ht), outcome r ht]

/-- Two charset parameters, the first one without a value, on a request; the second encoding is set by hosted
code. -/
theorem last_encoding_wins_of_duplicate :
    let ct := "text/plain; charset = ;charset=B; q"
    ∃ r, Request.new .null .null ⟨.empty⟩ = .ok r ∧
      withCharset (withCharset ct (some "UTF-8")) (some "ascii") = "text/plain; charset = ascii;charset=B; q" ∧
      let s := ((Subject.request 2024).run (.inl (.setContentType (some ct))) r).state
      (Subject.request 2024).run (.inr (.setEncoding (some "ascii")))
          ((Subject.request 2024).run (.inl (.setEncoding (some "UTF-8"))) s).state =
        (Subject.request 2024).run (.inr (.setEncoding (some "ascii"))) s := by
  intro ct
  have first : isToken "UTF-8".toList = true := by decide +kernel
  have second : isToken "ascii".toList = true := by decide +kernel
  obtain ⟨texts, requests, -⟩ := last_encoding_wins 2024 first second
  refine ⟨_, rfl, ?_, ?_⟩
  · rw [texts ct (by decide +kernel)]
    decide +kernel
  · refine requests _ _ _ (fun shown hshown => ?_) rfl rfl
    obtain rfl := Option.some.inj hshown
    decide +kernel

end Subject

end HttpExchange

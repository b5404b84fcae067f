import HttpExchange.Proofs.Language.RoundTrip
import HttpExchange.Proofs.Request.Footprint

/-!
# The preferred locales and their header

Setting locales writes the header that lists them, and adding that header sets the locales, unless it cannot
be read. Neither can be changed behind the other's back as long as the headers are changed through the request
only, so the locales are those that the header lists, if they are locales that survive being written.

## Main statements

* `RequestOp.keeps_sameLanguages`: which operations have nothing to do with languages.
* `RequestOp.keepsLocale`: no operation leaves a request without a locale.
* `RequestOp.followsHeader_run`: each operation leaves behind locales that follow the header.
* `Subject.locales_follow_header`: the locales after any run.
-/

namespace HttpExchange

open HttpExchange.Language

namespace Request

/-- The preferred locales themselves. -/
def languages (r : Request) : List Locale := r.locales.map (·.content)

theorem languages_withLocales (r : Request) (ls : List Locale) : (r.withLocales ls).languages = ls := by
  unfold languages withLocales
  exact List.ext_getElem (by simp) (by simp)

theorem locales_withLocales_ne_nil (r : Request) {ls : List Locale} (h : ls ≠ []) :
    (r.withLocales ls).locales ≠ [] := by
  intro hnil
  rw [← languages_withLocales r ls, languages, hnil] at h
  exact h rfl

/-! ## What has nothing to do with languages -/

/-- The configuration, the locales and the values of the language header are the same. -/
structure SameLanguages (r r' : Request) : Prop where
  config_eq : r'.config = r.config
  locales_eq : r'.locales = r.locales
  values?_eq : r'.headers.values? acceptLanguageHeader = r.headers.values? acceptLanguageHeader

theorem SameLanguages.refl (r : Request) : r.SameLanguages r := ⟨rfl, rfl, rfl⟩

theorem SameLanguages.trans {r s t : Request} (h : r.SameLanguages s) (h' : s.SameLanguages t) :
    r.SameLanguages t :=
  ⟨h'.config_eq.trans h.config_eq, h'.locales_eq.trans h.locales_eq, h'.values?_eq.trans h.values?_eq⟩

theorem sameLanguages_syncContentType (r : Request) : r.SameLanguages r.syncContentType := by
  unfold syncContentType
  cases r.contentType with
  | none => exact .refl r
  | some ct =>
    refine ⟨rfl, rfl, ?_⟩
    exact Headers.values?_putAs_of_ne _ ⟨.unique, contentTypeHeader⟩ (by decide +kernel) _ _

theorem sameLanguages_adoptContentType (ct : Thing String) (r : Request) :
    r.SameLanguages (r.adoptContentType ct) := by
  have adopted : r.SameLanguages { r with
      contentType := some ct, encoding := adoptCharset ct.content r.encoding } := ⟨rfl, rfl, rfl⟩
  exact adopted.trans (sameLanguages_syncContentType _)

theorem sameLanguages_setContentType (ct : Option String) (r : Request) :
    r.SameLanguages (r.setContentType ct) := by
  unfold setContentType
  cases ct with
  | none => exact ⟨rfl, rfl, rfl⟩
  | some ct => exact sameLanguages_adoptContentType _ r

theorem sameLanguages_setEncoding (encoding : Option String) (r : Request) :
    r.SameLanguages (r.setEncoding encoding) := by
  have encoded : r.SameLanguages { r with encoding := encoding.map (Thing.ofText .encoding) } :=
    ⟨rfl, rfl, rfl⟩
  exact encoded.trans (sameLanguages_syncContentType _)

theorem sameLanguages_assign {r s : Request} {p : RequestProperty} {v : Value}
    (h : r.assign p v = .ok s) : r.SameLanguages s := by
  unfold assign at h
  cases p with
  | contentType =>
    obtain ⟨ct, -, rfl⟩ := map_eq_ok_iff.1 h
    exact sameLanguages_setContentType ct r
  | encoding =>
    obtain ⟨e, -, rfl⟩ := map_eq_ok_iff.1 h
    exact sameLanguages_setEncoding e r
  | dispatch =>
    obtain ⟨d, -, rfl⟩ := map_eq_ok_iff.1 h
    exact ⟨rfl, rfl, rfl⟩
  | _ => cases h <;> exact ⟨rfl, rfl, rfl⟩

theorem SameApart.sameLanguages {changed : List RequestPart} {r r' : Request} (h : r.SameApart changed r')
    (hlocales : .locales ∉ changed) (hheaders : .headers ∉ changed) : r.SameLanguages r' :=
  ⟨h.config_eq, h.locales_eq hlocales, congrArg (Headers.values? · _) (h.headers_eq hheaders)⟩

end Request

namespace RequestOp

/-- Is the operation one on locales or headers? -/
def concernsLanguages : RequestOp → Bool
  | .addHeader _ _ | .addLocale _ | .setLocales _ | .headers _ => true
  | _ => false

theorem keeps_sameLanguages {thisYear : Int} {op : RequestOp} (h : op.concernsLanguages = false) :
    (op.run thisYear).Keeps Request.SameLanguages := by
  intro r
  have sameApart : r.SameApart op.footprint (op.run thisYear r).state := op.keeps_sameApart r
  cases op with
  | addHeader | addLocale | setLocales | headers => cases h
  | setContentType ct =>
    rw [run, Action.state_silently]
    exact Request.sameLanguages_setContentType ct r
  | setEncoding encoding =>
    rw [run, Action.state_silently]
    exact Request.sameLanguages_setEncoding encoding r
  | assign p v =>
    rw [run, Action.state_silently]
    exact Action.keeps_update Request.SameLanguages.refl (fun r s => Request.sameLanguages_assign) r
  | _ => exact sameApart.sameLanguages (by simp [footprint]) (by simp [footprint])

end RequestOp

/-! ## Locales and header -/

namespace Request

/-- The request after a list of languages was followed, the locale of the configuration being `d`. -/
theorem addLanguages_eq {r : Request} {d : Locale} (hd : r.config.locale = .ok d) (name : String) (v : Value) :
    let followed := match readPreferences v.display with
      | .ok ls => r.withLocales (if ls = [] then [d] else ls)
      | .error _ => r
    ∃ events, addLanguages name v r = ⟨{ followed with headers := r.headers.put name v true }, events, .ok ()⟩ := by
  unfold addLanguages
  rcases readPreferences v.display with fault | ls
  · exact ⟨_, rfl⟩
  · cases ls with
    | cons l ls => exact ⟨_, rfl⟩
    | nil =>
      have update : r.config.locale.map (fun l => r.withLocales [l]) = .ok (r.withLocales [d]) := by
        rw [hd]
        rfl
      dsimp only
      rw [Action.update_bind_of_ok update]
      exact ⟨_, rfl⟩

theorem state_addLanguages {r : Request} {d : Locale} (hd : r.config.locale = .ok d) (name : String)
    (v : Value) : (addLanguages name v r).state =
      let followed := match readPreferences v.display with
        | .ok ls => r.withLocales (if ls = [] then [d] else ls)
        | .error _ => r
      { followed with headers := r.headers.put name v true } := by
  obtain ⟨events, h⟩ := addLanguages_eq hd name v
  rw [h]

theorem result_addLanguages {r : Request} {d : Locale} (hd : r.config.locale = .ok d) (name : String)
    (v : Value) : (addLanguages name v r).result = .ok () := by
  obtain ⟨events, h⟩ := addLanguages_eq hd name v
  rw [h]

/-- The locales are those that the header lists, if there is a header that can be read, or else the locale of
the configuration if it lists none. -/
structure FollowsHeader (d : Locale) (r : Request) : Prop where
  locale_eq : r.config.locale = .ok d
  stable : ∀ l ∈ r.languages, l.IsStable
  header : r.headers.values? acceptLanguageHeader = none ∨
    ∃ m text, r.headers.values? acceptLanguageHeader = some [.text m text] ∧
      ∀ ls, readPreferences text = .ok ls → r.languages = if ls = [] then [d] else ls

theorem FollowsHeader.of_same {d : Locale} {r r' : Request} (h : r.FollowsHeader d)
    (same : r.SameLanguages r') : r'.FollowsHeader d := by
  have languages_eq : r'.languages = r.languages := congrArg (List.map _) same.locales_eq
  refine ⟨same.config_eq ▸ h.locale_eq, languages_eq ▸ h.stable, ?_⟩
  rw [same.values?_eq, languages_eq]
  exact h.header

theorem exists_languagesValue (locales : List (Thing Locale)) :
    ∃ m, (languagesValue locales).owned .header = .text m (writePreferences (locales.map (·.content))) := by
  unfold languagesValue
  split
  · next l =>
    have single : writePreferences [l.content] = l.content.tag := String.ofList_toList
    rw [List.map_singleton, single]
    exact Value.exists_owned_text _ _ _
  · exact Value.exists_owned_ofText _ _

/-- The header that is written for locales lists them. -/
theorem followsHeader_syncLocales {d : Locale} {r : Request} (hd : r.config.locale = .ok d)
    (hne : r.locales ≠ []) (stable : ∀ l ∈ r.languages, l.IsStable) : r.syncLocales.FollowsHeader d := by
  obtain ⟨m, hm⟩ := exists_languagesValue r.locales
  refine ⟨hd, stable, .inr ⟨m, writePreferences r.languages, ?_, fun ls hls => ?_⟩⟩
  · unfold syncLocales
    rw [hm]
    exact Headers.values?_putAs_text r.headers ⟨.unique, acceptLanguageHeader⟩ m _
  · obtain rfl := Except.ok.inj ((readPreferences_writePreferences stable).symm.trans hls)
    have listed : r.languages ≠ [] := fun hnil => hne (List.map_eq_nil_iff.1 hnil)
    exact (if_neg listed).symm

/-- A list of languages is followed if it can be read, and it is the header in any case. -/
theorem followsHeader_addLanguages {d : Locale} {r : Request} (h : r.FollowsHeader d) (hd : d.IsStable)
    {name : String} (hname : lowerCase name = lowerCase acceptLanguageHeader) (m : Mark) (text : String)
    (stable : ∀ ls, readPreferences text = .ok ls → ∀ l ∈ ls, l.IsStable) :
    (addLanguages name (.text m text) r).state.FollowsHeader d := by
  rw [state_addLanguages h.locale_eq]
  have stored : (r.headers.put name (.text m text) true).values? acceptLanguageHeader =
      some [.text m text] := by
    rw [← Headers.values?_congr _ hname]
    exact Headers.values?_put_text _ _ _ _
  have display : (Value.text m text).display = text := rfl
  rw [display]
  cases hread : readPreferences text with
  | error fault =>
    refine ⟨h.locale_eq, h.stable, .inr ⟨m, text, stored, fun ls hls => ?_⟩⟩
    rw [hread] at hls
    cases hls
  | ok ls =>
    have followed : ∀ hs : Headers,
        ({ r.withLocales (if ls = [] then [d] else ls) with headers := hs } : Request).languages =
          if ls = [] then [d] else ls := fun _ => languages_withLocales r _
    refine ⟨h.locale_eq, ?_, .inr ⟨m, text, stored, fun ls' hls => ?_⟩⟩
    · dsimp only
      rw [followed]
      split
      · exact List.forall_mem_singleton.2 hd
      · exact stable ls hread
    · obtain rfl := Except.ok.inj (hread.symm.trans hls)
      exact followed _

/-- A list of languages that is added is followed; other headers have nothing to do with languages. -/
theorem addHeader_cases (name : String) (v : Value) (r : Request) :
    r.SameLanguages (addHeader name v r).state ∨
      lowerCase name = lowerCase acceptLanguageHeader ∧ v ≠ .null ∧
        (addHeader name v r).state = (addLanguages name v r).state := by
  obtain ⟨-, h⟩ | ⟨hv, ⟨-, h⟩ | ⟨-, hname, h⟩ | ⟨-, hname, h⟩⟩ := addHeader_inv name v r <;> rw [h]
  · exact .inl (.refl r)
  · exact .inl (sameLanguages_adoptContentType _ r)
  · exact .inr ⟨hname, hv, rfl⟩
  · exact .inl ⟨rfl, rfl, Headers.values?_put_of_ne r.headers hname v false⟩

theorem followsHeader_addLocale {d : Locale} {r s : Request} (h : r.FollowsHeader d) {l : Option Locale}
    (stable : ∀ x, l = some x → x.IsStable) (hs : r.addLocale l = .ok s) : s.FollowsHeader d := by
  cases l with
  | none => cases hs
  | some l =>
    cases hs
    refine followsHeader_syncLocales h.locale_eq (List.cons_ne_nil _ _) ?_
    exact List.forall_mem_cons.2 ⟨stable l rfl, h.stable⟩

theorem setLocales_eq_ok {r s : Request} {ls : List Locale} (hs : r.setLocales ls = .ok s) :
    (r.withLocales ls).locales ≠ [] ∧ s = (r.withLocales ls).syncLocales := by
  unfold setLocales at hs
  split at hs
  · cases hs
  · next hne =>
    obtain rfl := Except.ok.inj hs
    exact ⟨locales_withLocales_ne_nil r (mt List.isEmpty_iff.2 hne), rfl⟩

theorem followsHeader_setLocales {d : Locale} {r s : Request} (h : r.FollowsHeader d) {ls : List Locale}
    (stable : ∀ l ∈ ls, l.IsStable) (hs : r.setLocales ls = .ok s) : s.FollowsHeader d := by
  obtain ⟨hne, rfl⟩ := setLocales_eq_ok hs
  refine followsHeader_syncLocales h.locale_eq hne ?_
  rw [languages_withLocales]
  exact stable

/-! ## There is always a locale -/

def KeepsLocale (r s : Request) : Prop := r.locales ≠ [] → s.locales ≠ []

theorem keepsLocale_addLanguages (name : String) (v : Value) : (addLanguages name v).Keeps KeepsLocale :=
  keeps_addLanguages (R := KeepsLocale) (fun _ => id) (fun _ _ _ h h' => h' ∘ h)
    (fun r _ hls _ => locales_withLocales_ne_nil r hls) fun _ => id

end Request

namespace RequestOp

/-- Whatever an operation does, there is a locale afterwards. -/
theorem keepsLocale {thisYear : Int} (op : RequestOp) : (op.run thisYear).Keeps Request.KeepsLocale := by
  intro r h
  cases hop : op.concernsLanguages with
  | false =>
    rw [(keeps_sameLanguages hop r).locales_eq]
    exact h
  | true =>
    cases op with
    | addHeader name v =>
      rw [run, Action.state_silently]
      rcases Request.addHeader_cases name v r with same | ⟨-, -, hadd⟩
      · rw [same.locales_eq]
        exact h
      · rw [hadd]
        exact Request.keepsLocale_addLanguages name v r h
    | addLocale l =>
      rw [run, Action.state_silently]
      refine Action.keeps_update (R := Request.KeepsLocale) (fun _ => id) (fun r s hs _ => ?_) r h
      cases l with
      | none => cases hs
      | some l =>
        cases hs
        exact List.cons_ne_nil _ _
    | setLocales ls =>
      rw [run, Action.state_silently]
      refine Action.keeps_update (R := Request.KeepsLocale) (fun _ => id) (fun r s hs _ => ?_) r h
      obtain ⟨hne, rfl⟩ := Request.setLocales_eq_ok hs
      exact hne
    | headers op => exact h
    | _ => cases hop

/-- Locales that enter a request through an operation are those that their tags name, lists of languages are
texts, and the headers are not changed past the request. -/
def GivesStable : RequestOp → Prop
  | .addHeader name v => lowerCase name = lowerCase acceptLanguageHeader → v ≠ .null →
    ∃ m text, v = .text m text ∧ ∀ ls, readPreferences text = .ok ls → ∀ l ∈ ls, l.IsStable
  | .addLocale l => ∀ x, l = some x → x.IsStable
  | .setLocales ls => ∀ l ∈ ls, l.IsStable
  | .headers op => op.isOnValues = false ∧ op.event? = none
  | _ => True

theorem followsHeader_run {thisYear : Int} {op : RequestOp} (hop : op.GivesStable) {d : Locale}
    (hd : d.IsStable) {r : Request} (h : r.FollowsHeader d) : (op.run thisYear r).state.FollowsHeader d := by
  have refl : ∀ r : Request, r.FollowsHeader d → r.FollowsHeader d := fun _ => id
  cases hconcerns : op.concernsLanguages with
  | false => exact h.of_same (keeps_sameLanguages hconcerns r)
  | true =>
    cases op with
    | addHeader name v =>
      rw [run, Action.state_silently]
      rcases Request.addHeader_cases name v r with same | ⟨hname, hv, hadd⟩
      · exact h.of_same same
      · obtain ⟨m, text, rfl, stable⟩ := hop hname hv
        rw [hadd]
        exact Request.followsHeader_addLanguages h hd hname m text stable
    | addLocale l =>
      rw [run, Action.state_silently]
      exact Action.keeps_update refl (fun r s hs hr => Request.followsHeader_addLocale hr hop hs) r h
    | setLocales ls =>
      rw [run, Action.state_silently]
      exact Action.keeps_update refl (fun r s hs hr => Request.followsHeader_setLocales hr hop hs) r h
    | headers op =>
      rw [run, state_runHeaders_of_event?_eq_none hop.1 hop.2]
      exact h
    | _ => cases hconcerns

end RequestOp

/-! ## Runs -/

/-- The text of the header, as a request gives it. -/
theorem Request.result_header {thisYear : Int} {r : Request} {name : String} {m : Mark} {text : String}
    (h : r.headers.values? name = some [.text m text]) :
    ((Subject.request thisYear).run (.inl (.header name)) r).result = .ok (.value (.text m text)) := by
  have first : r.headers.first? name = some (.text m text) := by
    unfold Headers.first? Headers.valuesOf
    rw [h]
    rfl
  exact Action.result_within_atomic (Headers.run_get_of_first? first thisYear)

namespace Subject

/-- In all runs of a new request there is a most preferred locale. If each locale that enters the request is
the one that its tag names, and the headers are not changed past the request, then the locales are those that
the header lists, whenever there is a header that can be read; a header that lists none stands for the locale
of the configuration. -/
theorem locales_follow_header (thisYear : Int) {r : Request} (hnew : r.IsNew) :
    (∀ steps : List RequestStep,
      let s := (Subject.request thisYear).after steps r
      s.locales ≠ [] ∧
        ∃ m l, ((Subject.request thisYear).run (.inl (.read .locale)) s).result =
          .ok (.value (.locale m l))) ∧
    ∃ d, r.config.locale = .ok d ∧ (d.IsStable → ∀ steps : List RequestStep,
      (∀ step ∈ steps, ∀ op, step.op? = some op → op.GivesStable) →
      let s := (Subject.request thisYear).after steps r
      s.headers.has acceptLanguageHeader = true →
        ∃ m text, ((Subject.request thisYear).run (.inl (.header acceptLanguageHeader)) s).result =
            .ok (.value (.text m text)) ∧
          ∀ ls, readPreferences text = .ok ls → s.languages = if ls = [] then [d] else ls) := by
  obtain ⟨d, hd, hlocales, hheaders, -⟩ := hnew.exists_locale
  refine ⟨fun steps => ?_, d, hd, fun stable steps hsteps => ?_⟩
  · intro s
    have kept : Request.KeepsLocale r s :=
      after_induction (R := Request.KeepsLocale) (fun _ => id) (fun _ _ _ h h' => h' ∘ h)
        (fun step _ => RequestStep.performs.keeps_of_op (fun _ => id) fun op _ => op.keepsLocale) r
    have hne : s.locales ≠ [] := kept (hlocales ▸ List.cons_ne_nil _ _)
    refine ⟨hne, ?_⟩
    obtain ⟨l, rest, hs⟩ := List.exists_cons_of_ne_nil hne
    refine ⟨l.mark, l.content, ?_⟩
    change s.read .locale = _
    unfold Request.read Request.localeValues
    rw [hs]
    rfl
  · intro s hhas
    have start : r.FollowsHeader d := by
      refine ⟨hd, ?_, .inl (by rw [hheaders]; rfl)⟩
      rw [Request.languages, hlocales]
      exact List.forall_mem_singleton.2 stable
    have follows : s.FollowsHeader d :=
      after_induction (R := fun r s => r.FollowsHeader d → s.FollowsHeader d) (fun _ => id)
        (fun _ _ _ h h' => h' ∘ h)
        (fun step hstep => RequestStep.performs.keeps_of_op (fun _ => id) fun op hop r h =>
          op.followsHeader_run (hsteps step hstep op hop) stable h) r start
    rw [Headers.has_eq_isSome] at hhas
    obtain hnone | ⟨m, text, hvalues, hfollows⟩ := follows.header
    · rw [hnone] at hhas
      cases hhas
    · exact ⟨m, text, Request.result_header hvalues, hfollows⟩

/-- A list that cannot be read leaves the locales alone until they are written over it. -/
theorem locales_follow_header_after_unreadable_list :
    let steps : List RequestStep := [.inl (.addHeader "accept-language" (.ofText "da;q=x")),
      .inl (.addLocale (some ⟨"de", "AT", ""⟩))]
    ∃ r, Request.new .null .null ⟨.empty⟩ = .ok r ∧
      ∃ m text, ((Subject.request 2024).run (.inl (.header acceptLanguageHeader))
          ((Subject.request 2024).after steps r)).result = .ok (.value (.text m text)) ∧
        ∀ ls, readPreferences text = .ok ls →
          ((Subject.request 2024).after steps r).languages = if ls = [] then [⟨"en", "", ""⟩] else ls := by
  intro steps
  refine ⟨_, rfl, ?_⟩
  obtain ⟨-, d, hd, follows⟩ := locales_follow_header 2024 ⟨.null, .null, ⟨.empty⟩, rfl⟩
  obtain rfl : ⟨"en", "", ""⟩ = d := Except.ok.inj hd
  refine follows rfl steps (fun step hstep op hop => ?_) (by decide +kernel)
  rcases List.mem_cons.1 hstep with rfl | hstep
  · obtain rfl := Option.some.inj hop
    intro _ _
    refine ⟨.none, "da;q=x", rfl, fun ls hls => ?_⟩
    cases hls
  · obtain rfl := List.mem_singleton.1 hstep
    obtain rfl := Option.some.inj hop
    intro l hl
    obtain rfl := Option.some.inj hl
    rfl

end Subject

end HttpExchange

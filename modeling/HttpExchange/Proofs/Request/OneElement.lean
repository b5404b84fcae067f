import HttpExchange.Proofs.ContentType.Coupling
import HttpExchange.Proofs.Language.Preference
import HttpExchange.Proofs.Request.Languages

/-!
# Lists of one text as headers

A list that is added as a header is flattened into its items, so that a list of one text is stored like the text.
Where a header is followed as well, it is the display of the list that is followed, which has a bracket and a quote
in front of the text. It is another content type, whatever the text is, and it is no list of languages.

## Main statements

* `Text.length_opening_lt`: the display of a list begins with more brackets and quotes than its item.
* `ContentType.opening_withCharset`: a charset does not change the beginning of a content type.
* `Language.readPreferences_of_bracket`: no list of languages begins with a bracket.
* `Subject.list_of_one_added_as_item_iff`: when a list of one text is added like the text.
-/

namespace HttpExchange

namespace Text

/-! ## The beginning of a literal -/

/-- Does `c` begin the display of a list or an item in it: is it a bracket, a quote or a backslash? -/
def isOpening (c : Char) : Bool := c = '[' || c = apostrophe || c = quotationMark || c = backslash

/-- The brackets, quotes and backslashes with which a text begins. -/
def opening (cs : List Char) : List Char := cs.takeWhile isOpening

theorem opening_append_cons {d : Char} (hd : isOpening d = false) (u v : List Char) :
    opening (u ++ d :: v) = opening u := by
  unfold opening
  induction u with
  | nil => simp [hd]
  | cons c u ih => cases hc : isOpening c <;> simp [hc, ih]

/-- Such a character is written as it is, or behind a backslash. -/
theorem escape_of_isOpening {c : Char} (hc : isOpening c = true) (quote : Char) :
    escape isPrintable quote c = [c] ∨ escape isPrintable quote c = [backslash, c] := by
  by_cases h : c = quote ∨ c = backslash
  · exact .inr (if_pos h)
  · have one : c = '[' ∨ c = apostrophe ∨ c = quotationMark := by
      simp only [isOpening, Bool.or_eq_true, decide_eq_true_eq] at hc
      tauto
    rw [escape, if_neg h]
    rcases one with rfl | rfl | rfl <;> exact .inl rfl

theorem length_opening_le_escaped (quote : Char) (cs t : List Char) :
    (opening cs).length ≤ (opening (cs.flatMap (escape isPrintable quote) ++ t)).length := by
  unfold opening
  induction cs with
  | nil => simp
  | cons c cs ih =>
    cases hc : isOpening c with
    | false => simp [hc]
    | true =>
      have first : isOpening backslash = true := rfl
      rw [List.flatMap_cons, List.append_assoc, List.takeWhile_cons_of_pos hc]
      rcases escape_of_isOpening hc quote with plain | escaped
      · simpa [plain, hc] using ih
      · simpa [escaped, hc, first] using Nat.le_succ_of_le ih

/-- The display of a list begins with more brackets and quotes than its item, however many that has. -/
theorem length_opening_lt (cs : List Char) :
    (opening cs).length < (opening ('[' :: (quoted isPrintable cs ++ [']']))).length := by
  have inside := length_opening_le_escaped (quoteFor cs) cs ([quoteFor cs] ++ [']'])
  have quote : isOpening (quoteFor cs) = true := by
    unfold quoteFor
    split <;> rfl
  unfold opening at inside
  unfold quoted opening
  rw [List.takeWhile_cons_of_pos rfl, List.append_assoc, List.cons_append, List.takeWhile_cons_of_pos quote]
  exact Nat.lt_succ_of_le (Nat.le_succ_of_le inside)

end Text

open Text

namespace ContentType

/-- A charset is written behind a semicolon or an equals sign, so the beginning of a content type stays. -/
theorem opening_withCharset (ct : String) (charset : Option String) :
    opening (withCharset ct charset).toList = opening ct.toList := by
  cases charset with
  | none => rfl
  | some charset =>
    by_cases hempty : charset = ""
    · simp [withCharset, hempty]
    · rw [toList_withCharset ct hempty, slotOf]
      cases hslot : slot? true ct.toList with
      | none =>
        rw [Option.getD_none, Slot.fill, added, List.append_assoc, List.append_assoc, List.cons_append]
        exact opening_append_cons rfl _ _
      | some s =>
        obtain ⟨⟨value, hct, -, -⟩, u, -, hbefore, key, gap, rfl, -, -⟩ := before_of_slot? hslot
        have fixed (rest : List Char) : opening (s.before ++ rest) = opening (u ++ key) := by
          rw [hbefore, ← List.append_assoc, List.append_assoc, List.cons_append]
          exact opening_append_cons rfl _ _
        rw [Option.getD_some, Slot.fill, List.append_assoc, fixed, hct, fixed]

end ContentType

namespace Language

theorem not_isTag_of_bracket (cs : List Char) : ¬ Locale.IsTag ('[' :: cs) := by
  intro h
  obtain ⟨language, rest, hsplit, hlanguage, -⟩ := Locale.isTag_iff.1 h
  obtain ⟨first, back, hcs⟩ := exists_split_eq_cons '-' cs
  rw [split_cons_of_ne (by decide) hcs] at hsplit
  obtain ⟨rfl, -⟩ := List.cons.inj hsplit
  have letters := Locale.isAlphanum_of_isSubtag (Locale.isSubtag_of_isLanguage hlanguage)
  exact absurd (letters '[' List.mem_cons_self) (by decide)

theorem trim_bracket (cs : List Char) : trim ('[' :: cs) = '[' :: trimRight cs :=
  trim_append_cons rfl [] cs

theorem isMalformed_of_bracket (cs : List Char) : (Item.ofText ('[' :: cs)).IsMalformed := by
  obtain ⟨first, back, hcs⟩ := exists_split_eq_cons ';' cs
  have tag : (Item.ofText ('[' :: cs)).tag = '[' :: trimRight first := by
    rw [Item.ofText, split_cons_of_ne (by decide) hcs, List.map_cons, trim_bracket]
  refine .inr (.inr ⟨?_, ?_⟩)
  · rw [tag]
    simp
  · rw [tag, trim_bracket]
    exact not_isTag_of_bracket _

/-- No list of languages begins with a bracket. -/
theorem readPreferences_of_bracket {text : String} {cs : List Char} (h : text.toList = '[' :: cs) :
    ∃ fault, readPreferences text = .error fault := by
  obtain ⟨first, back, hcs⟩ := exists_split_eq_cons ',' cs
  have pieces : split ',' text.toList = ('[' :: first) :: back := h ▸ split_cons_of_ne (by decide) hcs
  have listed : Item.ofText ('[' :: trimRight first) ∈ itemsIn (split ',' text.toList) := by
    rw [pieces, itemsIn_cons, trim_bracket]
    exact List.mem_cons_self
  obtain ⟨fault, hfault, -, -⟩ | ⟨found, -, hgood, -⟩ := rangesOf_cases text (split ',' text.toList)
  · exact ⟨fault, by rw [readPreferences, hfault]; rfl⟩
  · exact absurd (isMalformed_of_bracket _) (hgood _ listed)

end Language

/-! ## Requests -/

theorem Value.toList_display_list (m m' : Mark) (s : String) :
    (Value.list m' [.text m s]).display.toList = '[' :: (quoted isPrintable s.toList ++ [']']) := by
  have display : (Value.list m' [.text m s]).display = "[" ++ Text.literal s ++ "]" := rfl
  simp [display, Text.literal]

/-- What is stored for a value are the values that it is flattened into. -/
theorem Headers.put_congr {v w : Value} (h : v.flatten = w.flatten) (g : Headers) (name : String)
    (replace : Bool) : g.put name v replace = g.put name w replace := by
  unfold put putAs combine
  rw [h]

namespace Request

open HttpExchange.Language

variable {r : Request} {name : String} {v : Value} {d : Locale}

theorem addHeader_of_isFirstType (h : r.IsFirstType name) (hv : v ≠ .null) :
    addHeader name v r = ⟨r.adoptContentType (v.displayedAt .contentType), [], .ok ()⟩ := by
  obtain ⟨rfl, -⟩ | ⟨-, ⟨-, hadd⟩ | ⟨hlater, -⟩ | ⟨hlater, -⟩⟩ := addHeader_inv name v r
  · exact absurd rfl hv
  · exact hadd
  · exact absurd h hlater
  · exact absurd h hlater

theorem addHeader_of_languages (hfirst : ¬ r.IsFirstType name)
    (hname : lowerCase name = lowerCase acceptLanguageHeader) (hv : v ≠ .null) :
    addHeader name v r = addLanguages name v r := by
  obtain ⟨rfl, -⟩ | ⟨-, ⟨h, -⟩ | ⟨-, -, hadd⟩ | ⟨-, hother, -⟩⟩ := addHeader_inv name v r
  · exact absurd rfl hv
  · exact absurd h hfirst
  · exact hadd
  · exact absurd hname hother

theorem addHeader_of_other (hfirst : ¬ r.IsFirstType name)
    (hname : lowerCase name ≠ lowerCase acceptLanguageHeader) (hv : v ≠ .null) :
    addHeader name v r = ⟨{ r with headers := r.headers.put name v false }, [], .ok ()⟩ := by
  obtain ⟨rfl, -⟩ | ⟨-, ⟨h, -⟩ | ⟨-, h, -⟩ | ⟨-, -, hadd⟩⟩ := addHeader_inv name v r
  · exact absurd rfl hv
  · exact absurd h hfirst
  · exact absurd h hname
  · exact hadd

/-- Nothing but a missing value is refused. -/
theorem result_addHeader (hd : r.config.locale = .ok d) (name : String) (hv : v ≠ .null) :
    (addHeader name v r).result = .ok () := by
  obtain ⟨rfl, -⟩ | ⟨-, ⟨-, h⟩ | ⟨-, -, h⟩ | ⟨-, -, h⟩⟩ := addHeader_inv name v r
  · exact absurd rfl hv
  · rw [h]
  · rw [h]
    exact result_addLanguages hd name v
  · rw [h]

/-- Headers, content type, encoding and preferred locales are the same. -/
structure SameFields (r s : Request) : Prop where
  headers_eq : r.headers = s.headers
  coupling_eq : r.coupling = s.coupling
  languages_eq : r.languages = s.languages

/-- The display of a list is another content type than its item, with any charset in either. -/
theorem contentType_addHeader_ne (h : r.IsFirstType name) (m m' : Mark) (s : String) :
    (addHeader name (.text m s) r).state.coupling.contentType ≠
      (addHeader name (.list m' [.text m s]) r).state.coupling.contentType := by
  rw [addHeader_of_isFirstType h Value.noConfusion, addHeader_of_isFirstType h Value.noConfusion,
    coupling_adoptContentType, coupling_adoptContentType, Coupling.apply_adopt, Coupling.apply_adopt,
    Value.content_displayedAt, Value.content_displayedAt]
  intro same
  have openings := congrArg (fun ct => (opening ct.toList).length) (Option.some.inj same)
  rw [ContentType.opening_withCharset, ContentType.opening_withCharset, Value.toList_display_list] at openings
  exact absurd openings (length_opening_lt s.toList).ne

/-- A list of languages that consists of one text is stored like the text, and the locales stay. -/
theorem state_addLanguages_list (hd : r.config.locale = .ok d) (name : String) (m m' : Mark) (s : String) :
    (addLanguages name (.list m' [.text m s]) r).state =
      { r with headers := r.headers.put name (.text m s) true } := by
  obtain ⟨fault, hfault⟩ := readPreferences_of_bracket (Value.toList_display_list m m' s)
  rw [state_addLanguages hd, hfault, Headers.put_congr (w := .text m s) rfl]
  rfl

theorem sameFields_addLanguages_iff (hd : r.config.locale = .ok d) (name : String) (m m' : Mark) (s : String) :
    (addLanguages name (.text m s) r).state.SameFields (addLanguages name (.list m' [.text m s]) r).state ↔
      ∀ ls, readPreferences s = .ok ls → r.languages = if ls = [] then [d] else ls := by
  have display : (Value.text m s).display = s := rfl
  rw [state_addLanguages_list hd, state_addLanguages hd, display]
  cases hread : readPreferences s with
  | error fault =>
    constructor
    · intro _ ls hls
      cases hls
    · intro _
      exact ⟨rfl, rfl, rfl⟩
  | ok ls =>
    have followed := languages_withLocales r (if ls = [] then [d] else ls)
    constructor
    · intro same ls' hls'
      obtain rfl := Except.ok.inj hls'
      exact same.languages_eq.symm.trans followed
    · intro h
      exact ⟨rfl, rfl, followed.trans (h ls rfl).symm⟩

/-- A list of one text is added like the text unless it is the first content type, or a list of languages that
would be followed and is not the present one. -/
theorem sameFields_addHeader_iff (hd : r.config.locale = .ok d) (name : String) (m m' : Mark) (s : String) :
    (addHeader name (.text m s) r).state.SameFields (addHeader name (.list m' [.text m s]) r).state ↔
      ¬ r.IsFirstType name ∧ (lowerCase name = lowerCase acceptLanguageHeader →
        ∀ ls, readPreferences s = .ok ls → r.languages = if ls = [] then [d] else ls) := by
  by_cases hfirst : r.IsFirstType name
  · constructor
    · intro same
      exact absurd (congrArg Coupling.contentType same.coupling_eq) (contentType_addHeader_ne hfirst m m' s)
    · intro h
      exact absurd hfirst h.1
  · by_cases hname : lowerCase name = lowerCase acceptLanguageHeader
    · rw [addHeader_of_languages hfirst hname Value.noConfusion, addHeader_of_languages hfirst hname Value.noConfusion,
        sameFields_addLanguages_iff hd]
      exact ⟨fun h => ⟨hfirst, fun _ => h⟩, fun h => h.2 hname⟩
    · rw [addHeader_of_other hfirst hname Value.noConfusion, addHeader_of_other hfirst hname Value.noConfusion,
        Headers.put_congr (w := .text m s) rfl]
      exact ⟨fun _ => ⟨hfirst, fun h => absurd h hname⟩, fun _ => ⟨rfl, rfl, rfl⟩⟩

/-- The configuration of a request has a locale, and no operation changes the configuration. -/
theorem Reachable.exists_locale {thisYear : Int} (hr : Request.Reachable thisYear r) :
    ∃ d, r.config.locale = .ok d := by
  induction hr with
  | start hnew =>
    obtain ⟨d, hd, -⟩ := hnew.exists_locale
    exact ⟨d, hd⟩
  | @step r step _ ih =>
    have kept : ((Subject.request thisYear).run step).Keeps fun r s : Request => s.config = r.config :=
      Subject.RequestStep.performs.keeps_of_op (R := fun r s => s.config = r.config) (fun _ => rfl)
        fun op _ r => (op.keeps_sameApart r).config_eq
    exact kept r ▸ ih

end Request

namespace Subject

open HttpExchange.Language

/-- A list of one text and the text itself can always be added as a header. Afterwards headers, content type,
encoding and locales are the same exactly if it was not the first content type, and no list of languages other than
the preferred ones. The first content type is another one each time. -/
theorem list_of_one_added_as_item_iff (thisYear : Int) {r : Request} (hr : Request.Reachable thisYear r)
    (name : String) (m m' : Mark) (s : String) :
    let item := (request thisYear).run (.inl (.addHeader name (.text m s))) r
    let list := (request thisYear).run (.inl (.addHeader name (.list m' [.text m s]))) r
    item.result = .ok .none ∧ list.result = .ok .none ∧
      (r.IsFirstType name → item.state.coupling.contentType ≠ list.state.coupling.contentType) ∧
      ∃ d, r.config.locale = .ok d ∧
        (item.state.SameFields list.state ↔
          ¬ r.IsFirstType name ∧ (lowerCase name = lowerCase acceptLanguageHeader →
            ∀ ls, readPreferences s = .ok ls → r.languages = if ls = [] then [d] else ls)) := by
  obtain ⟨d, hd⟩ := hr.exists_locale
  have state (v : Value) : ((request thisYear).run (.inl (.addHeader name v)) r).state =
      (Request.addHeader name v r).state := Action.state_silently _ r
  have result {v : Value} (hv : v ≠ .null) :
      ((request thisYear).run (.inl (.addHeader name v)) r).result = .ok .none :=
    Action.result_silently (Request.result_addHeader hd name hv)
  refine ⟨result Value.noConfusion, result Value.noConfusion, fun hfirst => ?_, d, hd, ?_⟩
  · rw [state, state]
    exact Request.contentType_addHeader_ne hfirst m m' s
  · rw [state, state]
    exact Request.sameFields_addHeader_iff hd name m m' s

/-- A second content type is stored only, and a list with the locale of the configuration changes no locale. -/
theorem list_of_one_added_as_item_of_second_type :
    ∃ fresh, Request.new .null .null ⟨.empty⟩ = .ok fresh ∧
      let r := (request 2024).after [.inl (.addHeader "Content-Type" (.ofText "text/html"))] fresh
      let add (name : String) (v : Value) := ((request 2024).run (.inl (.addHeader name v)) r).state
      (add "content-type" (.ofText "text/plain")).SameFields
          (add "content-type" (.ofList [.ofText "text/plain"])) ∧
        (add "Accept-Language" (.ofText "en;q=0.5")).SameFields
          (add "Accept-Language" (.ofList [.ofText "en;q=0.5"])) := by
  obtain ⟨fresh, hfresh⟩ : ∃ r, Request.new .null .null ⟨.empty⟩ = .ok r := ⟨_, rfl⟩
  refine ⟨fresh, hfresh, ?_⟩
  intro r add
  have reachable : Request.Reachable 2024 r :=
    Subject.Reachable.after (Subject.Reachable.start ⟨.null, .null, ⟨.empty⟩, hfresh⟩) _
  have typed : r.headers.has contentTypeHeader = true := by
    cases hfresh
    decide +kernel
  have second (name : String) : ¬ r.IsFirstType name := fun h => Bool.noConfusion (typed.symm.trans h.2)
  obtain ⟨-, -, -, _, -, type_iff⟩ :=
    list_of_one_added_as_item_iff 2024 reachable "content-type" .none .none "text/plain"
  obtain ⟨-, -, -, d, hd, languages_iff⟩ :=
    list_of_one_added_as_item_iff 2024 reachable "Accept-Language" .none .none "en;q=0.5"
  refine ⟨type_iff.2 ⟨second _, fun h => ?_⟩, languages_iff.2 ⟨second _, fun _ ls hls => ?_⟩⟩
  · exact absurd h (by decide +kernel)
  · have read : (readPreferences "en;q=0.5").toOption = some [⟨"en", "", ""⟩] := by decide +kernel
    rw [hls] at read
    obtain rfl := Option.some.inj read
    cases hfresh
    rfl

/-- The display of a list is the content type, and the languages in a list are not followed. -/
theorem list_of_one_added_as_text :
    ∃ r, Request.new .null .null ⟨.empty⟩ = .ok r ∧
      let add (name : String) (v : Value) := ((request 2024).run (.inl (.addHeader name v)) r).state
      (add "Content-Type" (.ofText "text/html")).coupling.contentType = some "text/html" ∧
        (add "Content-Type" (.ofList [.ofText "text/html"])).coupling.contentType = some "['text/html']" ∧
        (add "Accept-Language" (.ofText "de")).languages = [⟨"de", "", ""⟩] ∧
        (add "Accept-Language" (.ofList [.ofText "de"])).languages = [⟨"en", "", ""⟩] := by
  refine ⟨_, rfl, ?_⟩
  decide +kernel

end Subject

end HttpExchange

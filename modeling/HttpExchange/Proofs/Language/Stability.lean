import HttpExchange.Proofs.Language.Preference
import HttpExchange.Proofs.Language.RoundTrip
import HttpExchange.Proofs.Text.Ascii

/-!
# Locales that were read

A locale that was read from a tag has a tag of its own, with language and country in their conventional case and
without the script. This tag is a language tag again, but it need not name the same locale: where two scripts stand
one behind the other, only the first one is skipped, and the second one is what stands behind the language in the tag
that is written.

## Main statements

* `Locale.subtags_append_flatMap`: the subtags of a text that is put together of them.
* `Locale.toList_tag_ofSubtags`: the tag of a locale that was read.
* `Locale.ofSubtags_writtenSubtags_iff`: when its subtags give the same locale again.
* `Locale.ofTag_tag_iff`: so it is unless there are two scripts.
* `Language.readPreferences_writePreferences_iff`: the lists of locales that are read as they were written.
-/

namespace HttpExchange

namespace Locale

open Text

/-! ## Subtags in conventional case -/

theorem isAlphanum_of_isLanguage {cs : List Char} (h : isLanguage cs = true) :
    ∀ c ∈ cs, c.isAlphanum = true := isAlphanum_of_isSubtag (isSubtag_of_isLanguage h)

theorem isLanguage_lower {cs : List Char} (h : isLanguage cs = true) : isLanguage (lower cs) = true := by
  rw [lower_ascii (isAscii_of_isAlphanum (isAlphanum_of_isLanguage h))]
  unfold isLanguage at h ⊢
  rw [List.length_map, List.all_map]
  have same : Char.isAlpha ∘ Char.toLower = Char.isAlpha := funext isAlpha_toLower
  rwa [same]

theorem lower_lower {cs : List Char} (h : isLanguage cs = true) : lower (lower cs) = lower cs := by
  have ascii := isAscii_of_isAlphanum (isAlphanum_of_isLanguage h)
  have ascii' := isAscii_of_isAlphanum (isAlphanum_of_isLanguage (isLanguage_lower h))
  rw [lower_ascii ascii', lower_ascii ascii, List.map_map]
  exact List.map_congr_left fun c _ => toLower_toLower c

theorem isAlphanum_of_isCountry {cs : List Char} (h : isCountry cs = true) : ∀ c ∈ cs, c.isAlphanum = true := by
  intro c hc
  unfold isCountry at h
  simp only [Bool.or_eq_true, Bool.and_eq_true] at h
  rcases h with ⟨-, letters⟩ | ⟨-, digits⟩
  · have letter := List.all_eq_true.1 letters c hc
    simp [Char.isAlphanum, letter]
  · have digit := List.all_eq_true.1 digits c hc
    simp [Char.isAlphanum, digit]

theorem length_of_isCountry {cs : List Char} (h : isCountry cs = true) : cs.length = 2 ∨ cs.length = 3 := by
  unfold isCountry at h
  simp only [Bool.or_eq_true, Bool.and_eq_true, beq_iff_eq] at h
  rcases h with ⟨two, -⟩ | ⟨three, -⟩
  · exact .inl two
  · exact .inr three

theorem isSubtag_of_isCountry {cs : List Char} (h : isCountry cs = true) : isSubtag cs = true := by
  have length := length_of_isCountry h
  unfold isSubtag
  simp only [Bool.and_eq_true, decide_eq_true_eq]
  exact ⟨⟨by omega, by omega⟩, List.all_eq_true.2 (isAlphanum_of_isCountry h)⟩

theorem isScript_of_isCountry {cs : List Char} (h : isCountry cs = true) : isScript cs = false := by
  have length := length_of_isCountry h
  have not_four : (cs.length == 4) = false := by
    rw [beq_eq_false_iff_ne]
    omega
  unfold isScript
  rw [not_four, Bool.false_and]

/-- Letters stay letters, and digits have no case. -/
theorem isCountry_upper {cs : List Char} (h : isCountry cs = true) : isCountry (upper cs) = true := by
  rw [upper_ascii (isAscii_of_isAlphanum (isAlphanum_of_isCountry h))]
  unfold isCountry at h ⊢
  simp only [Bool.or_eq_true, Bool.and_eq_true, List.length_map, List.all_map] at h ⊢
  rcases h with ⟨two, letters⟩ | ⟨three, digits⟩
  · have same : Char.isAlpha ∘ Char.toUpper = Char.isAlpha := funext isAlpha_toUpper
    rw [same]
    exact .inl ⟨two, letters⟩
  · refine .inr ⟨three, List.all_eq_true.2 fun c hc => ?_⟩
    have digit : c.isDigit = true := List.all_eq_true.1 digits c hc
    rw [Function.comp_apply, toUpper_of_isDigit digit]
    exact digit

theorem upper_upper {cs : List Char} (h : isCountry cs = true) : upper (upper cs) = upper cs := by
  have ascii := isAscii_of_isAlphanum (isAlphanum_of_isCountry h)
  have ascii' := isAscii_of_isAlphanum (isAlphanum_of_isCountry (isCountry_upper h))
  rw [upper_ascii ascii', upper_ascii ascii, List.map_map]
  exact List.map_congr_left fun c _ => toUpper_toUpper c

/-! ## Tags that are put together -/

variable {language : List Char} {rest : List (List Char)}

theorem subtags_append_flatMap (hlanguage : isLanguage language = true)
    (hrest : ∀ subtag ∈ rest, isSubtag subtag = true) :
    subtags (language ++ rest.flatMap ('-' :: ·)) = language :: rest := by
  have chars := (IsTag.mk hlanguage hrest).isAlphanum_or_eq
  have no_blank : ∀ c ∈ language ++ rest.flatMap ('-' :: ·), isBlank c = false := by
    intro c hc
    rcases chars c hc with halphanum | rfl
    · exact isBlank_of_isAlphanum halphanum
    · rfl
  have no_underscore : ∀ c ∈ language ++ rest.flatMap ('-' :: ·), (if c = '_' then '-' else c) = c := by
    intro c hc
    refine if_neg ?_
    rintro rfl
    rcases chars '_' hc with halphanum | heq
    · cases halphanum
    · cases heq
  have trimmed : trim (language ++ rest.flatMap ('-' :: ·)) = language ++ rest.flatMap ('-' :: ·) := by
    refine trim_of_ends (fun c hc => no_blank c ?_) (fun c hc => no_blank c ?_)
    · exact List.mem_of_head? hc
    · exact List.mem_of_getLast? hc
  have hyphens : (language ++ rest.flatMap ('-' :: ·)).map (fun c => if c = '_' then '-' else c) =
      language ++ rest.flatMap ('-' :: ·) := by
    conv_rhs => rw [← List.map_id (language ++ rest.flatMap ('-' :: ·))]
    exact List.map_congr_left no_underscore
  unfold subtags
  rw [trimmed, hyphens]
  refine split_append_flatMap ?_ fun subtag h => hyphen_not_mem_of_isSubtag (hrest subtag h)
  exact hyphen_not_mem_of_isSubtag (isSubtag_of_isLanguage hlanguage)

theorem ofTag?_append_flatMap (hlanguage : isLanguage language = true)
    (hrest : ∀ subtag ∈ rest, isSubtag subtag = true) :
    ofTag? (language ++ rest.flatMap ('-' :: ·)) = some (ofSubtags language rest) := by
  have accepted : (isLanguage language && rest.all isSubtag) = true := by
    rw [hlanguage, List.all_eq_true.2 hrest]
    rfl
  unfold ofTag?
  rw [subtags_append_flatMap hlanguage hrest]
  exact if_pos accepted

/-! ## The tag of a locale that was read -/

theorem ne_nil_of_isSubtag {cs : List Char} (h : isSubtag cs = true) : cs ≠ [] := by
  rintro rfl
  cases h

theorem exists_of_ofTag? {cs : List Char} {l : Locale} (h : ofTag? cs = some l) :
    ∃ language rest, subtags cs = language :: rest ∧ isLanguage language = true ∧
      (∀ subtag ∈ rest, isSubtag subtag = true) ∧ l = ofSubtags language rest := by
  unfold ofTag? at h
  cases hsubtags : subtags cs with
  | nil =>
    rw [hsubtags] at h
    cases h
  | cons language rest =>
    rw [hsubtags] at h
    by_cases hgood : (isLanguage language && rest.all isSubtag) = true
    · have hl : some (ofSubtags language rest) = some l := (if_pos hgood).symm.trans h
      rw [Bool.and_eq_true] at hgood
      obtain ⟨hlanguage, hrest⟩ := hgood
      exact ⟨language, rest, rfl, hlanguage, List.all_eq_true.1 hrest, (Option.some.inj hl).symm⟩
    · have hnone : none = some l := (if_neg hgood).symm.trans h
      cases hnone

theorem filter_cons_present {part : List Char} (h : part ≠ []) (parts : List (List Char)) :
    (part :: parts).filter (fun p => !p.isEmpty) = part :: parts.filter fun p => !p.isEmpty := by
  refine List.filter_cons_of_pos ?_
  rw [Bool.not_eq_true', List.isEmpty_eq_false_iff]
  exact h

theorem flatMap_filter_join {pieces : List (List Char)} (h : ∀ piece ∈ pieces, piece ≠ []) :
    ([join ['-'] pieces].filter fun part => !part.isEmpty).flatMap (['-'] ++ ·) =
      pieces.flatMap ('-' :: ·) := by
  cases pieces with
  | nil => rfl
  | cons piece rest =>
    have hpiece : piece ≠ [] := h piece List.mem_cons_self
    have present : join ['-'] (piece :: rest) ≠ [] := by
      rw [join_cons]
      intro hnil
      exact hpiece (List.append_eq_nil_iff.1 hnil).1
    rw [filter_cons_present present, join_cons]
    simp

/-- The tag has the parts one after another; an empty country leaves no hyphen. -/
theorem toList_tag_ofParts {language : List Char} (hlanguage : isLanguage language = true) (country : List Char)
    {pieces : List (List Char)} (h : ∀ piece ∈ pieces, piece ≠ []) :
    (ofParts (String.ofList language) (String.ofList country) (String.ofList (join ['-'] pieces))).tag.toList =
      lower language ++
        ([upper country].filter fun part => !part.isEmpty).flatMap ('-' :: ·) ++ pieces.flatMap ('-' :: ·) := by
  have present : lower language ≠ [] := ne_nil_of_isSubtag (isSubtag_of_isLanguage (isLanguage_lower hlanguage))
  have apart : [upper country, join ['-'] pieces] = [upper country] ++ [join ['-'] pieces] := rfl
  unfold tag ofParts lowerCase upperCase
  simp only [String.toList_ofList, List.map_cons, List.map_nil]
  rw [filter_cons_present present, join_cons, apart, List.filter_append, List.flatMap_append,
    flatMap_filter_join h, List.append_assoc]
  rfl

/-! ## Reading the tag again -/

theorem dropScript_of_isScript {first : List Char} (h : isScript first = true) (rest : List (List Char)) :
    dropScript (first :: rest) = rest := if_pos h

theorem dropScript_of_head? {subtags : List (List Char)} (h : ∀ s, subtags.head? = some s → isScript s = false) :
    dropScript subtags = subtags := by
  cases subtags with
  | nil => rfl
  | cons first rest => exact if_neg (Bool.eq_false_iff.1 (h first rfl))

theorem takeCountry_of_isCountry {country : List Char} (h : isCountry country = true) (rest : List (List Char)) :
    takeCountry (country :: rest) = (country, rest) := if_pos h

theorem takeCountry_of_head? {subtags : List (List Char)}
    (h : ∀ s, subtags.head? = some s → isCountry s = false) : takeCountry subtags = ([], subtags) := by
  cases subtags with
  | nil => rfl
  | cons first rest => exact if_neg (Bool.eq_false_iff.1 (h first rfl))

theorem mem_of_mem_dropScript {subtags : List (List Char)} {s : List Char} (h : s ∈ dropScript subtags) :
    s ∈ subtags := by
  cases subtags with
  | nil => exact h
  | cons first rest =>
    by_cases hscript : isScript first = true
    · rw [dropScript_of_isScript hscript] at h
      exact List.mem_cons_of_mem first h
    · rw [dropScript, if_neg hscript] at h
      exact h

/-- The subtags that the tag has: those that were read, without a script in front and with the country in upper
case. -/
def writtenSubtags (subtags : List (List Char)) : List (List Char) :=
  match dropScript subtags with
  | country :: rest => if isCountry country then upper country :: rest else country :: rest
  | [] => []

/-- The country that was read is in front, or no country is. -/
theorem writtenSubtags_cases (subtags : List (List Char)) :
    (∃ country rest, dropScript subtags = country :: rest ∧ isCountry country = true ∧
      writtenSubtags subtags = upper country :: rest) ∨
    (∀ s, (dropScript subtags).head? = some s → isCountry s = false) ∧
      writtenSubtags subtags = dropScript subtags := by
  unfold writtenSubtags
  cases dropScript subtags with
  | nil =>
    refine .inr ⟨fun s hs => ?_, rfl⟩
    cases hs
  | cons country rest =>
    by_cases hcountry : isCountry country = true
    · exact .inl ⟨country, rest, rfl, hcountry, if_pos hcountry⟩
    · refine .inr ⟨fun s hs => ?_, if_neg hcountry⟩
      cases hs
      exact Bool.not_eq_true _ ▸ hcountry

theorem isSubtag_of_mem_writtenSubtags {subtags : List (List Char)} (h : ∀ s ∈ subtags, isSubtag s = true) :
    ∀ s ∈ writtenSubtags subtags, isSubtag s = true := by
  have kept : ∀ s ∈ dropScript subtags, isSubtag s = true := fun s hs => h s (mem_of_mem_dropScript hs)
  obtain ⟨country, rest, hdrop, hcountry, hwritten⟩ | ⟨-, hwritten⟩ := writtenSubtags_cases subtags
  · rw [hdrop] at kept
    rw [hwritten]
    refine List.forall_mem_cons.2 ⟨isSubtag_of_isCountry (isCountry_upper hcountry), fun s hs => ?_⟩
    exact kept s (List.mem_cons_of_mem country hs)
  · rw [hwritten]
    exact kept

theorem toList_tag_ofSubtags (hlanguage : isLanguage language = true)
    (hrest : ∀ subtag ∈ rest, isSubtag subtag = true) :
    (ofSubtags language rest).tag.toList = lower language ++ (writtenSubtags rest).flatMap ('-' :: ·) := by
  have kept : ∀ s ∈ dropScript rest, s ≠ [] := fun s hs =>
    ne_nil_of_isSubtag (hrest s (mem_of_mem_dropScript hs))
  unfold ofSubtags
  obtain ⟨country, others, hdrop, hcountry, hwritten⟩ | ⟨hnone, hwritten⟩ := writtenSubtags_cases rest
  · have present : upper country ≠ [] := ne_nil_of_isSubtag (isSubtag_of_isCountry (isCountry_upper hcountry))
    rw [hdrop] at kept
    rw [hwritten, hdrop, takeCountry_of_isCountry hcountry]
    dsimp only
    rw [toList_tag_ofParts hlanguage country fun s hs => kept s (List.mem_cons_of_mem country hs),
      filter_cons_present present, List.append_assoc, ← List.flatMap_append]
    rfl
  · rw [hwritten, takeCountry_of_head? hnone]
    dsimp only
    rw [toList_tag_ofParts hlanguage [] kept, List.append_assoc]
    rfl

theorem ofTag?_tag_ofSubtags (hlanguage : isLanguage language = true)
    (hrest : ∀ subtag ∈ rest, isSubtag subtag = true) :
    ofTag? (ofSubtags language rest).tag.toList = some (ofSubtags (lower language) (writtenSubtags rest)) := by
  rw [toList_tag_ofSubtags hlanguage hrest]
  exact ofTag?_append_flatMap (isLanguage_lower hlanguage) (isSubtag_of_mem_writtenSubtags hrest)

theorem language_ofSubtags (language : List Char) (rest : List (List Char)) :
    (ofSubtags language rest).language = String.ofList (lower language) := by
  unfold ofSubtags ofParts lowerCase
  dsimp only
  rw [String.toList_ofList]

theorem length_join_lt {piece : List Char} (h : piece ≠ []) (rest : List (List Char)) :
    (join ['-'] rest).length < (join ['-'] (piece :: rest)).length := by
  have positive : 0 < piece.length := List.length_pos_iff.2 h
  rw [join_cons, List.length_append]
  cases rest with
  | nil =>
    rw [join, List.length_nil]
    omega
  | cons next others =>
    rw [join_cons, List.flatMap_cons, List.length_append, List.length_append, List.length_append]
    omega

theorem length_join_takeCountry_le (subtags : List (List Char)) :
    (join ['-'] (takeCountry subtags).2).length ≤ (join ['-'] subtags).length := by
  cases subtags with
  | nil => exact le_rfl
  | cons country rest =>
    by_cases hcountry : isCountry country = true
    · rw [takeCountry_of_isCountry hcountry]
      exact (length_join_lt (ne_nil_of_isSubtag (isSubtag_of_isCountry hcountry)) rest).le
    · have taken : takeCountry (country :: rest) = ([], country :: rest) := if_neg hcountry
      rw [taken]

theorem lowerCase_lower (hlanguage : isLanguage language = true) :
    lowerCase (String.ofList (lower language)) = lowerCase (String.ofList language) := by
  unfold lowerCase
  rw [String.toList_ofList, String.toList_ofList, lower_lower hlanguage]

theorem upperCase_upper {country : List Char} (hcountry : isCountry country = true) :
    upperCase (String.ofList (upper country)) = upperCase (String.ofList country) := by
  unfold upperCase
  rw [String.toList_ofList, String.toList_ofList, upper_upper hcountry]

/-- A country is found again: no script is in front of it. -/
theorem ofSubtags_upper (hlanguage : isLanguage language = true) {country : List Char}
    (hcountry : isCountry country = true) {subtags : List (List Char)}
    (hdrop : dropScript subtags = country :: rest) :
    ofSubtags (lower language) (upper country :: rest) = ofSubtags language subtags := by
  have raised : isCountry (upper country) = true := isCountry_upper hcountry
  have kept : dropScript (upper country :: rest) = upper country :: rest := by
    refine dropScript_of_head? ?_
    rintro s ⟨⟩
    exact isScript_of_isCountry raised
  unfold ofSubtags ofParts
  rw [hdrop, kept, takeCountry_of_isCountry hcountry, takeCountry_of_isCountry raised]
  dsimp only
  rw [lowerCase_lower hlanguage, upperCase_upper hcountry]

/-- A script in front is missing in the variant. -/
theorem length_variant_lt (language : List Char) {script : List Char} (hscript : isScript script = true)
    (rest : List (List Char)) :
    (ofSubtags language (script :: rest)).variant.toList.length < (join ['-'] (script :: rest)).length := by
  have present : script ≠ [] := by
    rintro rfl
    cases hscript
  have longer := length_join_lt present rest
  have shorter := length_join_takeCountry_le rest
  unfold ofSubtags ofParts
  rw [dropScript_of_isScript hscript]
  dsimp only
  rw [String.toList_ofList]
  omega

/-- The subtags that are written give the same locale again, unless the first one is a script: it is part of the
variant that was read, and it is skipped now. -/
theorem ofSubtags_writtenSubtags_iff (hlanguage : isLanguage language = true) (subtags : List (List Char)) :
    ofSubtags (lower language) (writtenSubtags subtags) = ofSubtags language subtags ↔
      ∀ s, (dropScript subtags).head? = some s → isScript s = false := by
  obtain ⟨country, rest, hdrop, hcountry, hwritten⟩ | ⟨hnone, hwritten⟩ := writtenSubtags_cases subtags
  · have no_script : ∀ s, (country :: rest).head? = some s → isScript s = false := by
      rintro s ⟨⟩
      exact isScript_of_isCountry hcountry
    rw [hwritten, hdrop]
    exact ⟨fun _ => no_script, fun _ => ofSubtags_upper hlanguage hcountry hdrop⟩
  · have variant_eq : (ofSubtags language subtags).variant.toList = join ['-'] (dropScript subtags) := by
      unfold ofSubtags ofParts
      rw [takeCountry_of_head? hnone]
      exact String.toList_ofList
    rw [hwritten]
    constructor
    · intro heq s hs
      by_contra hscript
      obtain ⟨rest, hdrop⟩ : ∃ rest, dropScript subtags = s :: rest := List.head?_eq_some_iff.1 hs
      have shorter := length_variant_lt (lower language) (Bool.not_eq_false _ ▸ hscript) rest
      rw [← hdrop, heq, variant_eq] at shorter
      omega
    · intro no_script
      unfold ofSubtags ofParts
      rw [dropScript_of_head? no_script, takeCountry_of_head? hnone]
      dsimp only
      rw [lowerCase_lower hlanguage]

/-- A language tag with two scripts, one behind the other, after the language. -/
def HasTwoScripts (tag : String) : Prop :=
  ∃ language first second rest, subtags tag.toList = language :: first :: second :: rest ∧
    isScript first = true ∧ isScript second = true

theorem not_hasTwoScripts_iff {tag : String} (h : subtags tag.toList = language :: rest) :
    ¬ HasTwoScripts tag ↔ ∀ s, (dropScript rest).head? = some s → isScript s = false := by
  constructor
  · intro hnot s hs
    by_contra hscript
    have is_script : isScript s = true := Bool.not_eq_false _ ▸ hscript
    cases rest with
    | nil => cases hs
    | cons first others =>
      by_cases hfirst : isScript first = true
      · rw [dropScript_of_isScript hfirst] at hs
        obtain ⟨behind, rfl⟩ := List.head?_eq_some_iff.1 hs
        exact hnot ⟨language, first, s, behind, h, hfirst, is_script⟩
      · rw [dropScript, if_neg hfirst] at hs
        cases hs
        exact hfirst is_script
  · rintro hscript ⟨_, first, second, others, hsubtags, hfirst, hsecond⟩
    rw [h] at hsubtags
    obtain ⟨rfl, rfl⟩ := List.cons.inj hsubtags
    rw [dropScript_of_isScript hfirst] at hscript
    have none_there := hscript second rfl
    rw [hsecond] at none_there
    cases none_there

/-- The tag of a locale that was read is accepted again. It names the same locale unless there were two scripts, of
which the second one became the beginning of the variant. -/
theorem ofTag_tag_iff {tag : String} {l : Locale} (h : ofTag tag = .ok l) :
    ∃ m, ofTag l.tag = .ok m ∧ m.language = l.language ∧ (m = l ↔ ¬ HasTwoScripts tag) := by
  obtain ⟨language, rest, hsubtags, hlanguage, hrest, rfl⟩ := exists_of_ofTag? (ofTag_eq_ok_iff.1 h)
  refine ⟨ofSubtags (lower language) (writtenSubtags rest), ?_, ?_, ?_⟩
  · exact ofTag_eq_ok_iff.2 (ofTag?_tag_ofSubtags hlanguage hrest)
  · rw [language_ofSubtags, language_ofSubtags, lower_lower hlanguage]
  · rw [ofSubtags_writtenSubtags_iff hlanguage, not_hasTwoScripts_iff hsubtags]

/-- The script of `zh-Hant_tw` is skipped, and the country is written in upper case. -/
theorem ofTag_tag_of_single_script :
    let l : Locale := ⟨"zh", "TW", ""⟩
    ofTag "zh-Hant_tw" = .ok l ∧ ofTag l.tag = .ok l := by
  intro l
  have read : ofTag "zh-Hant_tw" = .ok l := ofTag_eq_ok_iff.2 (by decide)
  obtain ⟨m, hm, -, hsame⟩ := ofTag_tag_iff read
  have single : ¬ HasTwoScripts "zh-Hant_tw" := by
    rintro ⟨language, first, second, others, hsubtags, -, hsecond⟩
    have pieces : subtags "zh-Hant_tw".toList = ["zh".toList, "Hant".toList, "tw".toList] := by decide
    rw [pieces] at hsubtags
    cases hsubtags
    cases hsecond
  rw [hsame.2 single] at hm
  exact ⟨read, hm⟩

/-- The second script of `zh-Hant-Hans` is written, and skipped when it is read. -/
theorem ofTag_tag_lost_of_two_scripts : ∃ l m, ofTag "zh-Hant-Hans" = .ok l ∧ ofTag l.tag = .ok m ∧ m ≠ l :=
  ⟨⟨"zh", "", "Hans"⟩, ⟨"zh", "", ""⟩, ofTag_eq_ok_iff.2 (by decide), ofTag_eq_ok_iff.2 (by decide),
    by decide⟩

end Locale

namespace Language

open Text

/-! ## Lists that are read as they were written -/

theorem exists_ofTag?_of_mem {text : String} {ls : List Locale} (h : readPreferences text = .ok ls) :
    ∀ l ∈ ls, ∃ cs, Locale.ofTag? cs = some l := by
  intro l hl
  unfold readPreferences at h
  obtain ⟨fault, hfault, -⟩ | ⟨found, hfound, -, hnames⟩ := rangesOf_cases text (split ',' text.toList)
  · rw [hfault] at h
    cases h
  · rw [hfound] at h
    obtain rfl : byQuality found.reduceOption = ls := Except.ok.inj h
    obtain ⟨⟨_, quality⟩, hrange, rfl⟩ := List.mem_map.1 hl
    rw [List.mem_mergeSort, List.reduceOption_mem_iff] at hrange
    obtain ⟨i, hi, hget⟩ := List.getElem_of_mem hrange
    have names := hnames.get (hnames.length_eq ▸ hi) hi
    have named := (names _ quality).1 hget
    exact ⟨_, named.2.1⟩

/-- A list of locales is read as it was written exactly if each of them is the one that its tag names. -/
theorem readPreferences_writePreferences_iff (ls : List Locale) :
    readPreferences (writePreferences ls) = .ok ls ↔ ∀ l ∈ ls, l.IsStable := by
  constructor
  · intro h l hl
    have named : ∀ d ∈ ls, ∃ m, Locale.ofTag? d.tag.toList = some m := by
      intro d hd
      obtain ⟨cs, hcs⟩ := exists_ofTag?_of_mem h d hd
      obtain ⟨language, rest, -, hlanguage, hrest, rfl⟩ := Locale.exists_of_ofTag? hcs
      exact ⟨_, Locale.ofTag?_tag_ofSubtags hlanguage hrest⟩
    let again (d : Locale) : Locale := (Locale.ofTag? d.tag.toList).getD d
    have gives : ∀ d ∈ ls, Locale.ofTag? d.tag.toList = some (again d) := by
      intro d hd
      obtain ⟨m, hm⟩ := named d hd
      simp only [again, hm, Option.getD_some]
    have read : readPreferences (writePreferences ls) = .ok (ls.map again) :=
      readPreferences_writePreferences_of_forall₂ (List.forall₂_map_right_iff.2 (List.forall₂_same.2 gives))
    have unchanged : ls.map again = ls.map id := by
      rw [List.map_id]
      exact Except.ok.inj (read.symm.trans h)
    have same : again l = l := List.map_inj_left.1 unchanged l hl
    exact Locale.ofTag_eq_ok_iff.2 ((gives l hl).trans (congrArg some same))
  · exact readPreferences_writePreferences

end Language

end HttpExchange

import HttpExchange.Language.Preference
import HttpExchange.Proofs.Language.Tag
import Mathlib.Data.List.Forall2

/-!
# Languages that are written are read again

Not every locale is the one that its own tag names: of some the tag is no language tag, of others it names
another locale. A list of locales gives those that the tags name when it is read again; where they are the locales
themselves, it gives them back.

## Main statements

* `Language.readPreferences_writePreferences_of_forall₂`: a written list gives the locales that its tags name.
* `Language.readPreferences_writePreferences`: locales that their tags name are read as they
  were written.
-/

namespace HttpExchange

namespace Locale

open Text

/-- The locale is the one that its tag names. -/
def IsStable (l : Locale) : Prop := ofTag l.tag = .ok l

theorem ofTag_eq_ok_iff {tag : String} {l : Locale} : ofTag tag = .ok l ↔ ofTag? tag.toList = some l := by
  unfold ofTag
  cases ofTag? tag.toList <;> simp

theorem ofTag?_of_trim_eq {cs ds : List Char} (h : trim cs = trim ds) : ofTag? cs = ofTag? ds := by
  unfold ofTag? subtags
  rw [h]

theorem IsTag.isAlphanum_or_eq {cs : List Char} (h : IsTag cs) :
    ∀ c ∈ cs, c.isAlphanum = true ∨ c = '-' := by
  intro c hc
  obtain ⟨hlanguage, hrest⟩ := h
  rcases List.mem_append.1 hc with hc | hc
  · exact .inl (isAlphanum_of_isSubtag (isSubtag_of_isLanguage hlanguage) c hc)
  · obtain ⟨subtag, hsubtag, hc⟩ := List.mem_flatMap.1 hc
    rcases List.mem_cons.1 hc with rfl | hc
    · exact .inr rfl
    · exact .inl (isAlphanum_of_isSubtag (hrest subtag hsubtag) c hc)

theorem IsTag.ne_nil {cs : List Char} (h : IsTag cs) : cs ≠ [] := by
  obtain ⟨hlanguage, -⟩ := h
  rintro hnil
  rw [(List.append_eq_nil_iff.1 hnil).1] at hlanguage
  cases hlanguage

/-- Letters, digits, hyphens, underscores and white space: a text that names a locale has no other
characters. -/
theorem not_mem_of_ofTag? {cs : List Char} {l : Locale} (h : ofTag? cs = some l) {d : Char}
    (hblank : isBlank d = false) (hword : d.isAlphanum = false ∧ d ≠ '-' ∧ d ≠ '_') : d ∉ cs := by
  have is_tag := (isSome_ofTag?_iff cs).1 (h ▸ rfl)
  have inside : d ∉ trim cs := by
    intro hd
    have kept : d ∈ hyphenated (trim cs) := List.mem_map.2 ⟨d, hd, if_neg hword.2.2⟩
    rcases is_tag.isAlphanum_or_eq d kept with halphanum | hhyphen
    · rw [hword.1] at halphanum
      cases halphanum
    · exact hword.2.1 hhyphen
  obtain ⟨lead, trail, hcs, hlead, htrail⟩ := exists_eq_append_trim cs
  rw [hcs]
  intro hd
  rcases List.mem_append.1 hd with hd | hd
  · exact not_mem_blanks hlead hblank hd
  · rcases List.mem_append.1 hd with hd | hd
    · exact inside hd
    · exact not_mem_blanks htrail hblank hd

theorem trim_ne_nil_of_ofTag? {cs : List Char} {l : Locale} (h : ofTag? cs = some l) : trim cs ≠ [] := by
  intro hnil
  have is_tag := (isSome_ofTag?_iff cs).1 (h ▸ rfl)
  rw [hnil] at is_tag
  exact is_tag.ne_nil rfl

end Locale

namespace Language

open Text

/-- A text that names a locale is a range of quality 1 for it. -/
theorem rangeOf_of_ofTag? (text : String) {cs : List Char} {l : Locale} (h : Locale.ofTag? cs = some l) :
    rangeOf text (trim cs) = .ok (some (l, 1000)) := by
  have named : Locale.ofTag? (trim cs) = some l := (Locale.ofTag?_of_trim_eq (trim_trim cs)).trans h
  have single : split ';' (trim cs) = [trim cs] :=
    split_of_not_mem (Locale.not_mem_of_ofTag? named (by decide) (by decide))
  have not_star : trim cs ≠ ['*'] := by
    intro hstar
    exact Locale.not_mem_of_ofTag? named (d := '*') (by decide) (by decide) (hstar ▸ List.mem_singleton.2 rfl)
  unfold rangeOf
  rw [single, List.map_singleton, trim_trim]
  simp only [qualityOf, if_neg not_star, Locale.ofTag, String.toList_ofList, named]
  rfl

theorem rangesOf_of_ofTag? (text : String) {pieces : List (List Char)} {ls : List Locale}
    (h : List.Forall₂ (fun piece l => Locale.ofTag? piece = some l) pieces ls) :
    rangesOf text pieces = .ok (ls.map (·, 1000)) := by
  induction h with
  | nil => rfl
  | cons hpiece _ ih =>
    have present := List.isEmpty_eq_false_iff.2 (Locale.trim_ne_nil_of_ofTag? hpiece)
    rw [rangesOf, present, rangeOf_of_ofTag? text hpiece, ih]
    rfl

theorem byQuality_map (ls : List Locale) (quality : Nat) : byQuality (ls.map (·, quality)) = ls := by
  have equal : (ls.map (·, quality)).Pairwise fun a b => (decide (b.2 ≤ a.2)) = true := by
    rw [List.pairwise_map]
    exact List.pairwise_of_forall fun _ _ => decide_eq_true le_rfl
  unfold byQuality
  rw [List.mergeSort_of_pairwise equal, List.map_map]
  exact List.map_id ls

theorem split_writePreferences {l : Locale} {rest : List Locale}
    (h : ∀ d ∈ l :: rest, (Locale.ofTag? d.tag.toList).isSome) :
    split ',' (writePreferences (l :: rest)).toList =
      l.tag.toList :: rest.map fun d => ' ' :: d.tag.toList := by
  have no_comma : ∀ d ∈ l :: rest, ',' ∉ d.tag.toList := by
    intro d hd
    obtain ⟨m, hm⟩ := Option.isSome_iff_exists.1 (h d hd)
    exact Locale.not_mem_of_ofTag? hm (by decide) (by decide)
  unfold writePreferences
  rw [String.toList_ofList, List.map_cons, join_cons]
  have commas : (rest.map fun d => d.tag.toList).flatMap ([',', ' '] ++ ·) =
      (rest.map fun d => ' ' :: d.tag.toList).flatMap (',' :: ·) := by
    rw [List.flatMap_map, List.flatMap_map]
    rfl
  rw [commas]
  refine split_append_flatMap (no_comma l List.mem_cons_self) fun piece hpiece => ?_
  obtain ⟨d, hd, rfl⟩ := List.mem_map.1 hpiece
  intro hmem
  rcases List.mem_cons.1 hmem with heq | hmem
  · cases heq
  · exact no_comma d (List.mem_cons_of_mem l hd) hmem

/-- A written list gives the locales that its tags name, in their order. -/
theorem readPreferences_writePreferences_of_forall₂ {ls ms : List Locale}
    (h : List.Forall₂ (fun l m => Locale.ofTag? l.tag.toList = some m) ls ms) :
    readPreferences (writePreferences ls) = .ok ms := by
  have accepted : ∀ d ∈ ls, (Locale.ofTag? d.tag.toList).isSome := by
    intro d hd
    obtain ⟨i, hi, rfl⟩ := List.getElem_of_mem hd
    have named := h.get hi (h.length_eq ▸ hi)
    exact Option.isSome_iff_exists.2 ⟨_, named⟩
  cases h with
  | nil => exact congrArg Except.ok (byQuality_map [] 1000)
  | @cons l m rest others hl hrest =>
    have spaced : ∀ cs : List Char, trim (' ' :: cs) = trim cs := fun _ => rfl
    have named : List.Forall₂ (fun piece d => Locale.ofTag? piece = some d)
        (l.tag.toList :: rest.map fun d => ' ' :: d.tag.toList) (m :: others) := by
      refine .cons hl ?_
      rw [List.forall₂_map_left_iff]
      refine hrest.imp fun d e hd => ?_
      rw [Locale.ofTag?_of_trim_eq (spaced d.tag.toList)]
      exact hd
    rw [readPreferences, split_writePreferences accepted, rangesOf_of_ofTag? _ named]
    exact congrArg Except.ok (byQuality_map _ 1000)

/-- A list of locales that their tags name is read as it was written. -/
theorem readPreferences_writePreferences {ls : List Locale} (h : ∀ l ∈ ls, l.IsStable) :
    readPreferences (writePreferences ls) = .ok ls := by
  refine readPreferences_writePreferences_of_forall₂ (List.forall₂_same.2 fun l hl => ?_)
  exact Locale.ofTag_eq_ok_iff.1 (h l hl)

end Language

end HttpExchange

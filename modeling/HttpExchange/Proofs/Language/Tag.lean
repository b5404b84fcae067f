import HttpExchange.Language.Tag
import HttpExchange.Proofs.Text.Append

/-!
# Which texts are language tags

A text names a locale exactly if it is a language tag once it is trimmed and has hyphens for underscores.

## Main statements

* `Locale.isSome_ofTag?_iff`: the texts that name a locale.
-/

namespace HttpExchange.Locale

open Text

/-- A language tag: a language, and subtags with a hyphen in front of each. -/
inductive IsTag : List Char → Prop where
  | mk {language : List Char} {rest : List (List Char)} (hlanguage : isLanguage language = true)
      (hrest : ∀ subtag ∈ rest, isSubtag subtag = true) : IsTag (language ++ rest.flatMap ('-' :: ·))

/-- The text with hyphens for underscores. -/
def hyphenated (cs : List Char) : List Char := cs.map fun c => if c = '_' then '-' else c

theorem isAlphanum_of_isSubtag {cs : List Char} (h : isSubtag cs = true) :
    ∀ c ∈ cs, c.isAlphanum = true := by
  unfold isSubtag at h
  rw [Bool.and_eq_true] at h
  exact List.all_eq_true.1 h.2

/-- A language is a subtag too. -/
theorem isSubtag_of_isLanguage {cs : List Char} (h : isLanguage cs = true) : isSubtag cs = true := by
  unfold isLanguage at h
  unfold isSubtag
  rw [Bool.and_eq_true] at h ⊢
  refine ⟨h.1, List.all_eq_true.2 fun c hc => ?_⟩
  have alpha := List.all_eq_true.1 h.2 c hc
  simp [Char.isAlphanum, alpha]

theorem hyphen_not_mem_of_isSubtag {cs : List Char} (h : isSubtag cs = true) : '-' ∉ cs := by
  intro hmem
  exact absurd (isAlphanum_of_isSubtag h '-' hmem) (by decide)

theorem isTag_iff {cs : List Char} : IsTag cs ↔ ∃ language rest, split '-' cs = language :: rest ∧
    isLanguage language = true ∧ rest.all isSubtag = true := by
  constructor
  · rintro ⟨hlanguage, hrest⟩
    refine ⟨_, _, split_append_flatMap ?_ ?_, hlanguage, List.all_eq_true.2 hrest⟩
    · exact hyphen_not_mem_of_isSubtag (isSubtag_of_isLanguage hlanguage)
    · exact fun subtag h => hyphen_not_mem_of_isSubtag (hrest subtag h)
  · rintro ⟨language, rest, hsplit, hlanguage, hrest⟩
    have whole := join_split '-' cs
    rw [hsplit, join_cons] at whole
    rw [← whole]
    exact .mk hlanguage (List.all_eq_true.1 hrest)

theorem isSome_ofTag?_iff (cs : List Char) : (ofTag? cs).isSome ↔ IsTag (hyphenated (trim cs)) := by
  rw [isTag_iff]
  obtain ⟨language, rest, hsplit⟩ := exists_split_eq_cons '-' (hyphenated (trim cs))
  have pieces : subtags cs = language :: rest := hsplit
  unfold ofTag?
  rw [pieces, hsplit]
  constructor
  · intro h
    by_cases hgood : (isLanguage language && rest.all isSubtag) = true
    · rw [Bool.and_eq_true] at hgood
      exact ⟨language, rest, rfl, hgood⟩
    · simp [hgood] at h
  · rintro ⟨_, _, heq, hlanguage, hrest⟩
    obtain ⟨rfl, rfl⟩ := List.cons.inj heq
    simp only [hlanguage, hrest, Bool.and_self, if_true, Option.isSome_some]

end HttpExchange.Locale

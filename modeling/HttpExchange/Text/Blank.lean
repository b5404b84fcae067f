import HttpExchange.Text.Character

/-!
# White space

The white space that is removed around values and skipped around separators. It covers the separators
of the information interchange controls, the no-break spaces and the spaces of all widths, not only the
blanks of ASCII.

## Main statements

* `isBlank_of_isWhitespace`, `isBlank_of_visible`: of ASCII the blanks are among them, and nothing that is visible.
* `trim_trim`: trimming twice is trimming once.
-/

namespace HttpExchange.Text

/-- The white space characters, as ranges in increasing order. -/
def blankRanges : Ranges :=
  [(0x9, 0xD), (0x1C, 0x20), (0x85, 0x85), (0xA0, 0xA0), (0x1680, 0x1680), (0x2000, 0x200A),
   (0x2028, 0x2029), (0x202F, 0x202F), (0x205F, 0x205F), (0x3000, 0x3000)]

/-- Is `c` white space? -/
def isBlank (c : Char) : Bool := blankRanges.covers c

/-- The text without the white space in front of it. -/
def trimLeft (cs : List Char) : List Char := cs.dropWhile isBlank

/-- The text without the white space behind it. -/
def trimRight (cs : List Char) : List Char := (cs.reverse.dropWhile isBlank).reverse

/-- The text without the white space around it. -/
def trim (cs : List Char) : List Char := trimRight (trimLeft cs)

/-- The blanks of ASCII are white space. -/
theorem isBlank_of_isWhitespace {c : Char} (h : c.isWhitespace) : isBlank c := by
  simp only [Char.isWhitespace, Bool.or_eq_true, decide_eq_true_eq] at h
  rcases h with ((rfl | rfl) | rfl) | rfl <;> decide

/-- No visible character of ASCII is white space. -/
theorem isBlank_of_visible {c : Char} (hlow : 0x20 < c.toNat) (hhigh : c.toNat < 0x7F) : isBlank c = false := by
  have apart : ∀ r ∈ blankRanges, r.2 ≤ 0x20 ∨ 0x7F ≤ r.1 := by decide
  rw [Bool.eq_false_iff]
  intro hblank
  obtain ⟨r, hr, hfrom, hto⟩ := Ranges.covers_eq_true_iff.1 hblank
  have beside := apart r hr
  omega

/-- What is left after trimming in front does not begin with white space. -/
theorem head?_trimLeft (cs : List Char) (c : Char) (h : (trimLeft cs).head? = some c) :
    isBlank c = false := by
  induction cs with
  | nil => simp [trimLeft] at h
  | cons d rest ih =>
    cases hd : isBlank d with
    | true => exact ih (by simpa [trimLeft, hd] using h)
    | false =>
      simp only [trimLeft, List.dropWhile_cons, hd, Bool.false_eq_true, if_false, List.head?_cons,
        Option.some.injEq] at h
      exact h ▸ hd

/-- A text that does not begin with white space has none to trim in front. -/
theorem trimLeft_of_head? {cs : List Char} (h : ∀ c, cs.head? = some c → isBlank c = false) :
    trimLeft cs = cs := by
  cases cs with
  | nil => rfl
  | cons c rest => simp [trimLeft, h c rfl]

/-- Trimming in front twice is trimming once. -/
theorem trimLeft_trimLeft (cs : List Char) : trimLeft (trimLeft cs) = trimLeft cs :=
  trimLeft_of_head? (head?_trimLeft cs)

/-- To trim behind is to trim the reversed text in front. -/
theorem trimRight_eq (cs : List Char) : trimRight cs = (trimLeft cs.reverse).reverse := rfl

/-- Trimming behind twice is trimming once. -/
theorem trimRight_trimRight (cs : List Char) : trimRight (trimRight cs) = trimRight cs := by
  simp [trimRight_eq, trimLeft_trimLeft]

/-- Trimming behind removes nothing but white space. -/
theorem exists_eq_trimRight_append (cs : List Char) :
    ∃ blanks, cs = trimRight cs ++ blanks ∧ ∀ c ∈ blanks, isBlank c := by
  refine ⟨(cs.reverse.takeWhile isBlank).reverse, ?_, ?_⟩
  · rw [trimRight, ← List.reverse_append, List.takeWhile_append_dropWhile, List.reverse_reverse]
  · intro c hc
    rw [List.mem_reverse] at hc
    exact List.all_eq_true.1 List.all_takeWhile c hc

/-- Trimming behind brings no white space to the front. -/
theorem head?_trimRight {cs : List Char} (h : ∀ c, cs.head? = some c → isBlank c = false) (c : Char)
    (hc : (trimRight cs).head? = some c) : isBlank c = false := by
  obtain ⟨blanks, hcs, _⟩ := exists_eq_trimRight_append cs
  refine h c ?_
  rw [hcs, List.head?_append, hc]
  rfl

/-- A text that was trimmed in front stays so when it is trimmed behind. -/
theorem trimLeft_trimRight {cs : List Char} (h : ∀ c, cs.head? = some c → isBlank c = false) :
    trimLeft (trimRight cs) = trimRight cs :=
  trimLeft_of_head? (head?_trimRight h)

/-- Trimming twice is trimming once. -/
theorem trim_trim (cs : List Char) : trim (trim cs) = trim cs := by
  rw [trim, trim, trimLeft_trimRight (head?_trimLeft cs), trimRight_trimRight]

end HttpExchange.Text

import HttpExchange.Text.Blank
import HttpExchange.Text.Case

/-!
# Letters and digits of ASCII

The letters and digits of ASCII are known by their numbers, and a small letter stands thirty-two places behind
the capital one. In a text of ASCII each character is put into the other case on its own.

## Main statements

* `Text.toNat_toLower`, `Text.toNat_toUpper`: the number of a character in the other case.
* `Text.lower_ascii`, `Text.upper_ascii`: lower and upper case of a text of ASCII.
-/

namespace HttpExchange.Text

/-! ## Numbers -/

section Numbers

variable {c : Char}

theorem isUpper_iff : c.isUpper = true ↔ 65 ≤ c.toNat ∧ c.toNat ≤ 90 := decide_eq_true_iff

theorem isLower_iff : c.isLower = true ↔ 97 ≤ c.toNat ∧ c.toNat ≤ 122 :=
  Bool.and_eq_true_iff.trans (and_congr decide_eq_true_iff decide_eq_true_iff)

theorem isAlpha_iff : c.isAlpha = true ↔ 65 ≤ c.toNat ∧ c.toNat ≤ 90 ∨ 97 ≤ c.toNat ∧ c.toNat ≤ 122 :=
  Bool.or_eq_true_iff.trans (or_congr isUpper_iff isLower_iff)

theorem toNat_of_isAlphanum (h : c.isAlphanum = true) : 48 ≤ c.toNat ∧ c.toNat ≤ 122 := by
  rcases Bool.or_eq_true_iff.1 h with letter | digit
  · have bounds := isAlpha_iff.1 letter
    omega
  · have bounds : 48 ≤ c.toNat ∧ c.toNat ≤ 57 := Char.isDigit_iff_toNat.1 digit
    omega

theorem isBlank_of_isAlphanum (h : c.isAlphanum = true) : isBlank c = false := by
  have bounds := toNat_of_isAlphanum h
  exact isBlank_of_visible (by omega) (by omega)

theorem isAscii_of_isAlphanum {cs : List Char} (h : ∀ c ∈ cs, c.isAlphanum = true) :
    ∀ c ∈ cs, c.toNat < 0x80 := by
  intro c hc
  have bounds := toNat_of_isAlphanum (h c hc)
  omega

end Numbers

/-! ## Case of characters

Batteries has some of these lemmas too, in a file that only the whole of Mathlib brings in.
-/

theorem toNat_toLower (c : Char) :
    c.toLower.toNat = if 65 ≤ c.toNat ∧ c.toNat ≤ 90 then c.toNat + 32 else c.toNat := by
  by_cases h : 65 ≤ c.toNat ∧ c.toNat ≤ 90
  · have moved : c.toLower = _ := dif_pos h
    have distance : ('a'.val - 'A'.val).toNat = 32 := by decide
    rw [if_pos h, moved, ← Char.toNat_val, UInt32.toNat_add, distance, Char.toNat_val]
    omega
  · have same : c.toLower = c := dif_neg h
    rw [if_neg h, same]

theorem toNat_toUpper (c : Char) :
    c.toUpper.toNat = if 97 ≤ c.toNat ∧ c.toNat ≤ 122 then c.toNat - 32 else c.toNat := by
  by_cases h : 97 ≤ c.toNat ∧ c.toNat ≤ 122
  · have moved : c.toUpper = _ := dif_pos h
    -- The way back is a sum as well, modulo `2 ^ 32`.
    have distance : ('A'.val - 'a'.val).toNat = 2 ^ 32 - 32 := by decide
    rw [if_pos h, moved, ← Char.toNat_val, UInt32.toNat_add, distance, Char.toNat_val]
    omega
  · have same : c.toUpper = c := dif_neg h
    rw [if_neg h, same]

theorem isAlpha_toLower (c : Char) : c.toLower.isAlpha = c.isAlpha := by
  rw [Bool.eq_iff_iff, isAlpha_iff, isAlpha_iff, toNat_toLower]
  split <;> omega

theorem isAlpha_toUpper (c : Char) : c.toUpper.isAlpha = c.isAlpha := by
  rw [Bool.eq_iff_iff, isAlpha_iff, isAlpha_iff, toNat_toUpper]
  split <;> omega

theorem toLower_toLower (c : Char) : c.toLower.toLower = c.toLower := by
  have small : ¬ (65 ≤ c.toLower.toNat ∧ c.toLower.toNat ≤ 90) := by
    rw [toNat_toLower]
    split <;> omega
  rw [← Char.toNat_inj, toNat_toLower c.toLower, if_neg small]

theorem toUpper_toUpper (c : Char) : c.toUpper.toUpper = c.toUpper := by
  have capital : ¬ (97 ≤ c.toUpper.toNat ∧ c.toUpper.toNat ≤ 122) := by
    rw [toNat_toUpper]
    split <;> omega
  rw [← Char.toNat_inj, toNat_toUpper c.toUpper, if_neg capital]

/-- Digits have no case. -/
theorem toUpper_of_isDigit {c : Char} (h : c.isDigit = true) : c.toUpper = c := by
  have bounds : 48 ≤ c.toNat ∧ c.toNat ≤ 57 := Char.isDigit_iff_toNat.1 h
  rw [← Char.toNat_inj, toNat_toUpper, if_neg (by omega)]

/-! ## Case of texts -/

theorem lowerAfter_ascii (before : List Char) {cs : List Char} (h : ∀ c ∈ cs, c.toNat < 0x80) :
    lowerAfter before cs = cs.map Char.toLower := by
  induction cs generalizing before with
  | nil => rfl
  | cons c rest ih =>
    have hc : c.toNat < 0x80 := h c List.mem_cons_self
    have single : lowerAt before c rest = [c.toLower] := by
      unfold lowerAt lowerChar
      rw [if_neg (by rintro rfl; exact absurd hc (by decide)),
        if_neg (by rintro rfl; exact absurd hc (by decide)), if_pos hc]
    rw [lowerAfter, single, ih (c :: before) fun d hd => h d (List.mem_cons_of_mem c hd)]
    rfl

theorem lower_ascii {cs : List Char} (h : ∀ c ∈ cs, c.toNat < 0x80) : lower cs = cs.map Char.toLower :=
  lowerAfter_ascii [] h

theorem upper_ascii {cs : List Char} (h : ∀ c ∈ cs, c.toNat < 0x80) : upper cs = cs.map Char.toUpper := by
  induction cs with
  | nil => rfl
  | cons c rest ih =>
    have single : upperChar c = [c.toUpper] := if_pos (h c List.mem_cons_self)
    have others := ih fun d hd => h d (List.mem_cons_of_mem c hd)
    unfold upper at others ⊢
    rw [List.flatMap_cons, single, others]
    rfl

end HttpExchange.Text

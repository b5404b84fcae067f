import HttpExchange.Header.Reading
import HttpExchange.Proofs.Text.Pieces
import Mathlib.Data.List.TakeWhile

/-!
# Decimal texts of integers

An integer is written in decimal digits, and the text is read as the same integer unless it has more digits than
are converted.

## Main statements

* `Numeral.read_write`: an integer is read as it was written.
* `intText_eq_toString`: what is written is the decimal form.
-/

namespace HttpExchange

open Text

namespace Numeral

/-- Digits have no underscores among them. -/
theorem separatorsWithin_of_ne {ds : List Char} (hne : ds ≠ []) (h : ∀ c ∈ ds, c ≠ '_') :
    separatorsWithin ds = true := by
  induction ds with
  | nil => exact absurd rfl hne
  | cons c rest ih =>
    cases rest with
    | nil => simpa [separatorsWithin] using h
    | cons d rest =>
      have first := h c List.mem_cons_self
      have second := h d (List.mem_cons_of_mem c List.mem_cons_self)
      have others := ih (List.cons_ne_nil d rest) fun e he => h e (List.mem_cons_of_mem c he)
      simp [separatorsWithin, first, second, others]

/-- A text of a sign, if there is one, and digits. -/
theorem read_of_takeSign {cs ds : List Char} {negative : Bool}
    (hcs : takeSign (cs.dropWhile isPadding) = (negative, ds)) (hne : ds ≠ []) (hds : ∀ c ∈ ds, c.isDigit = true)
    (hlength : ds.length ≤ maxDigits) :
    read cs = .ok (if negative then -(digitsValue ds : Int) else digitsValue ds) := by
  have scanned : ∀ c ∈ ds, isDigitOrSeparator c = true := fun c hc => by
    rw [isDigitOrSeparator, isDigit_of_isDigit (hds c hc), Bool.or_true]
  have plain : ∀ c ∈ ds, c ≠ '_' := by
    rintro c hc rfl
    exact absurd (hds _ hc) (by decide)
  have body : ds.takeWhile isDigitOrSeparator = ds := List.takeWhile_eq_self_iff.2 scanned
  have behind : ds.dropWhile isDigitOrSeparator = [] := List.dropWhile_eq_nil_iff.2 scanned
  have digits : ds.filter (· != '_') = ds := List.filter_eq_self.2 fun c hc => by simpa using plain c hc
  have short : ¬ maxDigits < ds.length := Nat.not_lt.2 hlength
  simp [read, hcs, body, behind, digits, separatorsWithin_of_ne hne plain, short]

theorem isBlank_of_mem_write {n : Int} {c : Char} (h : c ∈ write n) : isBlank c = false := by
  have digit {k : Nat} (hc : c ∈ digits k) : isBlank c = false :=
    isBlank_of_isDigit (isDigit_of_isDigit (isDigit_of_mem_digits hc))
  unfold write at h
  split at h
  · rcases List.mem_cons.1 h with rfl | h
    · decide
    · exact digit h
  · exact digit h

theorem trim_write (n : Int) : trim (write n) = write n :=
  trim_of_ends (fun _ hc => isBlank_of_mem_write (List.mem_of_mem_head? hc))
    fun _ hc => isBlank_of_mem_write (List.mem_of_mem_getLast? hc)

/-- The sign of a numeral is told from its digits. -/
theorem takeSign_write (n : Int) : takeSign (write n) = (decide (n < 0), digits n.natAbs) := by
  unfold write
  by_cases hn : n < 0
  · simp [hn, takeSign]
  · rw [if_neg hn, decide_eq_false hn]
    -- The first character is a digit, and so no sign.
    have ascii : ∀ c ∈ digits n.natAbs, c.isDigit = true := fun c hc => isDigit_of_mem_digits hc
    unfold takeSign
    split
    · next rest hrest => exact absurd (ascii '-' (by rw [hrest]; exact List.mem_cons_self)) (by decide)
    · next rest hrest => exact absurd (ascii '+' (by rw [hrest]; exact List.mem_cons_self)) (by decide)
    · rfl

/-- An integer that is not too long is read as it was written. -/
theorem read_write {n : Int} (h : (digits n.natAbs).length ≤ maxDigits) : read (write n) = .ok n := by
  have unpadded : (write n).dropWhile isPadding = write n := by
    refine List.dropWhile_eq_self_iff.2 fun hpos => ?_
    have first := isBlank_of_mem_write (List.getElem_mem hpos)
    simp [isPadding, first]
  have signed := (congrArg takeSign unpadded).trans (takeSign_write n)
  have some : digits n.natAbs ≠ [] := List.ne_nil_of_length_pos Nat.length_toDigits_pos
  rw [read_of_takeSign signed some (fun c hc => isDigit_of_mem_digits hc) h, digitsValue_digits]
  congr 1
  by_cases hn : n < 0
  · rw [decide_eq_true hn, if_pos rfl]
    omega
  · rw [decide_eq_false hn, if_neg Bool.false_ne_true]
    omega

end Numeral

/-- An integer is written in its decimal form. -/
theorem intText_eq_toString (n : Int) : intText n = toString n := by
  cases n with
  | ofNat m => rfl
  | negSucc m =>
    have negative : Int.negSucc m < 0 := Int.negSucc_lt_zero m
    rw [intText, Numeral.write, if_pos negative]
    show String.ofList ('-' :: Nat.toDigits 10 (m + 1)) = "-" ++ String.ofList (Nat.toDigits 10 (m + 1))
    rw [← String.toList_inj]
    simp

end HttpExchange

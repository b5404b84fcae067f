import HttpExchange.Number.Numeral
import HttpExchange.Text.Search
import Mathlib.Tactic.IntervalCases

/-!
# Scans of texts that begin as expected

What scans take from a text that begins with what they look for, and how they follow one another. A number is
read as the one that it was written for, with the zeros in front of it.

## Main statements

* `Scan.digits_append`: digits are taken up to the first other character or up to the limit.
* `Numeral.digitsValue_padded`: the zeros in front of a numeral do not change its value.
-/

namespace HttpExchange

namespace Text

theorem trim_of_ends {cs : List Char} (hfirst : ∀ c, cs.head? = some c → isBlank c = false)
    (hlast : ∀ c, cs.getLast? = some c → isBlank c = false) : trim cs = cs := by
  have behind : trimLeft cs.reverse = cs.reverse :=
    trimLeft_of_head? fun c hc => hlast c (by rwa [List.head?_reverse] at hc)
  rw [trim, trimLeft_of_head? hfirst, trimRight_eq, behind, List.reverse_reverse]

/-! ## Digits of ASCII -/

theorem exists_of_isDigit {c : Char} (h : c.isDigit = true) : ∃ d < 10, c = Char.ofNat (48 + d) := by
  have range : 48 ≤ c.toNat ∧ c.toNat ≤ 57 := Char.isDigit_iff_toNat.1 h
  refine ⟨c.toNat - 48, by omega, ?_⟩
  have same : 48 + (c.toNat - 48) = c.toNat := by omega
  rw [same, Char.ofNat_toNat]

theorem digitValue?_of_isDigit {c : Char} (h : c.isDigit = true) :
    digitValue? c = some (c.toNat - 48) := by
  obtain ⟨d, hd, rfl⟩ := exists_of_isDigit h
  interval_cases d <;> rfl

theorem isDigit_of_isDigit {c : Char} (h : c.isDigit = true) : isDigit c = true := by
  simp [isDigit, digitValue?_of_isDigit h]

theorem digitsValue_of_isDigit {cs : List Char} (h : ∀ c ∈ cs, c.isDigit = true) :
    digitsValue cs = Nat.ofDigitChars 10 cs 0 := by
  suffices ∀ n, cs.foldl (fun n c => 10 * n + (digitValue? c).getD 0) n = Nat.ofDigitChars 10 cs n from
    this 0
  induction cs with
  | nil => simp
  | cons c rest ih =>
    intro n
    rw [List.foldl_cons, Nat.ofDigitChars_cons, digitValue?_of_isDigit (h c List.mem_cons_self)]
    exact ih (fun d hd => h d (List.mem_cons_of_mem _ hd)) _

end Text

namespace Numeral

open Text

theorem isDigit_of_mem_digits {n : Nat} {c : Char} (h : c ∈ digits n) : c.isDigit = true :=
  Nat.isDigit_of_mem_toDigits (by decide) (by decide) h

theorem isDigit_of_mem_padded {width n : Nat} {c : Char} (h : c ∈ padded width n) :
    c.isDigit = true := by
  unfold padded List.leftpad at h
  rcases List.mem_append.1 h with h | h
  · rw [List.eq_of_mem_replicate h]
    rfl
  · exact isDigit_of_mem_digits h

theorem length_padded {width n : Nat} (hwidth : 0 < width) (h : n < 10 ^ width) :
    (padded width n).length = width := by
  have short : (digits n).length ≤ width := (Nat.length_toDigits_le_iff (by decide) hwidth).2 h
  unfold padded
  rw [List.length_leftpad]
  omega

theorem digitsValue_digits (n : Nat) : digitsValue (digits n) = n := by
  rw [digitsValue_of_isDigit fun c hc => isDigit_of_mem_digits hc]
  exact Nat.ofDigitChars_ten_toDigits

theorem digitsValue_padded (width n : Nat) : digitsValue (padded width n) = n := by
  rw [digitsValue_of_isDigit fun c hc => isDigit_of_mem_padded hc]
  unfold padded List.leftpad digits
  rw [Nat.ofDigitChars_append, Nat.ofDigitChars_replicate_zero, Nat.mul_zero,
    Nat.ofDigitChars_ten_toDigits]

end Numeral

namespace Text.Scan

variable {α β : Type}

theorem bind_of_some {x : Scan α} {f : α → Scan β} {cs rest : List Char} {a : α}
    (h : x cs = some (a, rest)) : (x >>= f) cs = f a rest := by
  change (x cs >>= fun r => f r.1 r.2) = f a rest
  rw [h]
  rfl

theorem bind_of_none {x : Scan α} {f : α → Scan β} {cs : List Char} (h : x cs = none) :
    (x >>= f) cs = none := by
  change (x cs >>= fun r => f r.1 r.2) = none
  rw [h]
  rfl

theorem bind_eq_some {x : Scan α} {f : α → Scan β} {cs : List Char} {r : β × List Char}
    (h : (x >>= f) cs = some r) : ∃ a rest, x cs = some (a, rest) ∧ f a rest = some r := by
  cases hx : x cs with
  | none =>
    rw [bind_of_none hx] at h
    cases h
  | some taken =>
    rw [bind_of_some hx] at h
    exact ⟨taken.1, taken.2, rfl, h⟩

/-- Digits are taken up to the limit, or up to the first character that is none. -/
theorem digits_append {least most : Nat} {ds rest : List Char} (hds : ∀ c ∈ ds, isDigit c = true)
    (hleast : least ≤ ds.length) (hmost : ds.length ≤ most)
    (hrest : ds.length = most ∨ ∀ c, rest.head? = some c → isDigit c = false) :
    Scan.digits least most (ds ++ rest) = some (digitsValue ds, rest) := by
  have taken : ((ds ++ rest).take most).takeWhile isDigit = ds := by
    rw [List.take_append, List.take_of_length_le hmost, List.takeWhile_append_of_pos hds]
    rcases hrest with full | other
    · simp [full]
    · cases rest with
      | nil => simp
      | cons c rest =>
        cases most - ds.length with
        | zero => simp
        | succ k => simp [other c rfl]
  unfold Scan.digits
  simp only [taken, if_neg (Nat.not_lt.2 hleast), List.drop_left]

theorem char_cons (c : Char) (rest : List Char) : Scan.char c (c :: rest) = some ((), rest) := by
  simp [Scan.char]

end Text.Scan

end HttpExchange

import HttpExchange.HttpDate
import HttpExchange.Proofs.Calendar.Days
import HttpExchange.Proofs.Number.Rounding

/-!
# The whole second of a number of milliseconds

Milliseconds are divided by a thousand in binary floating point, and the quotient is rounded once more, to
a microsecond. Neither step leads beyond a whole second: a quotient that is a whole number is exact, and any
other one is a millisecond or more away from the next whole number, which is far more than the rounding
errors of all quotients whose years are supported.

## Main statements

* `HttpDate.secondsOfInt_eq_ok_iff`: which times are accepted, and to which second they belong.
-/

namespace HttpExchange.HttpDate

open Binary64

/-! ## Whole seconds -/

theorem wholeSecond_eq (negative : Bool) (m : Nat) (e : Int) :
    wholeSecond negative m e =
      let whole : Int := ((ratio m e).1 / (ratio m e).2 : Nat)
      let micros := roundedTwice ((ratio m e).1 % (ratio m e).2 * 1000000) (ratio m e).2
      if negative then (if micros = 0 then -whole else -whole - 1)
      else (if micros < 1000000 then whole else whole + 1) :=
  rfl

theorem roundedTwice_zero (den : Nat) : roundedTwice 0 den = 0 := by
  have zero : ofRatio false 0 den = .finite false 0 minExponent := rfl
  unfold roundedTwice
  rw [zero]
  simp only
  rw [ratio_of_nonpos 0 (by decide)]
  exact Nat.le_zero.1 (roundQuotient_le (Nat.two_pow_pos _) (Nat.zero_le _))

/-- Integer bounds on a quotient are bounds on the nearest integer. -/
theorem roundedTwice_bounds {l u num den : Nat} (hden : 0 < den) (hlow : l * den ≤ num)
    (hhigh : num ≤ u * den) (hu : u < 2 ^ 52) :
    l ≤ roundedTwice num den ∧ roundedTwice num den ≤ u := by
  have within : Within 0 l u num den := ⟨by omega, by omega⟩
  have small : num < 2 ^ (53 - 0) * den :=
    calc num ≤ u * den := hhigh
      _ < 2 ^ 53 * den := Nat.mul_lt_mul_of_pos_right (hu.trans (by norm_num)) hden
  obtain ⟨m, e, heq, hlower, hupper⟩ := ofRatio_within false (by decide) hden small within
  rw [pow_zero, mul_one] at hlower hupper
  unfold roundedTwice
  rw [heq]
  exact ⟨le_roundQuotient (ratio_den_pos m e) hlower, roundQuotient_le (ratio_den_pos m e) hupper⟩

theorem wholeSecond_of_whole {m q : Nat} {e : Int} (h : (ratio m e).1 = q * (ratio m e).2) :
    (wholeSecond false m e = q) ∧ wholeSecond true m e = -q := by
  have positive := ratio_den_pos m e
  rw [wholeSecond_eq, wholeSecond_eq, h, Nat.mul_div_cancel q positive, Nat.mul_mod_left,
    Nat.zero_mul, roundedTwice_zero]
  simp

/-- A number of seconds that is a good millisecond away from whole numbers. -/
theorem wholeSecond_of_fraction {m q : Nat} {e : Int}
    (h : Within 15 (2 ^ 15 * q + 32) (2 ^ 15 * q + 32736) (ratio m e).1 (ratio m e).2) :
    (wholeSecond false m e = q) ∧ wholeSecond true m e = -q - 1 := by
  have positive := ratio_den_pos m e
  obtain ⟨hlower, hupper⟩ := h
  rw [wholeSecond_eq, wholeSecond_eq]
  generalize (ratio m e).1 = num at *
  generalize (ratio m e).2 = den at *
  have lower : 2 ^ 15 * (q * den) + 32 * den ≤ num * 2 ^ 15 := by
    calc _ = (2 ^ 15 * q + 32) * den := by ring
      _ ≤ num * 2 ^ 15 := hlower
  have upper : num * 2 ^ 15 ≤ 2 ^ 15 * (q * den) + 32736 * den := by
    calc num * 2 ^ 15 ≤ (2 ^ 15 * q + 32736) * den := hupper
      _ = _ := by ring
  have next : (q + 1) * den = q * den + den := by ring
  have whole : num / den = q := Nat.div_eq_of_lt_le (by omega) (by omega)
  have rest : num % den + q * den = num := by
    rw [← whole, Nat.mul_comm]
    exact Nat.mod_add_div num den
  rw [whole]
  clear hlower hupper next whole
  generalize num % den = fraction at *
  -- The fraction is a good millisecond away from both ends, and so are the microseconds.
  have above : 32 * den ≤ 2 ^ 15 * fraction := by omega
  have below : 2 ^ 15 * fraction ≤ 32736 * den := by omega
  clear lower upper rest
  have low : 1 * den ≤ fraction * 1000000 := by omega
  have high : fraction * 1000000 ≤ 999999 * den := by
    rw [Nat.mul_comm]
    omega
  obtain ⟨hpos, hlt⟩ := roundedTwice_bounds positive low high (by norm_num)
  generalize roundedTwice (fraction * 1000000) den = micros at *
  have nonzero : micros ≠ 0 := by omega
  have below : micros < 1000000 := by omega
  simp [nonzero, below]

/-- A large number of seconds is not brought near zero by its second rounding. -/
theorem le_natAbs_wholeSecond {negative : Bool} {m l : Nat} {e : Int}
    (h : l * (ratio m e).2 ≤ (ratio m e).1) : l ≤ (wholeSecond negative m e).natAbs := by
  have whole : l ≤ (ratio m e).1 / (ratio m e).2 := (Nat.le_div_iff_mul_le (ratio_den_pos m e)).2 h
  rw [wholeSecond_eq]
  simp only
  generalize (ratio m e).1 / (ratio m e).2 = w at *
  split <;> split <;> omega

/-! ## Numbers of milliseconds -/

theorem supportedSeconds_eq_ok_iff (s t : Int) : supportedSeconds s = .ok t ↔
    (-62135596800 ≤ s ∧ s ≤ 253402300799) ∧ t = s := by
  rw [← Date.isSupportedYear_ofSeconds_iff]
  unfold supportedSeconds
  simp only
  split
  · next h => simp [h, eq_comm]
  · next h => split <;> simp [h]

/-- Milliseconds of up to about eight thousand years belong to the second in which they fall. -/
theorem secondsOfInt_eq {ms : Int} (h : ms.natAbs < 1000 * 2 ^ 38) :
    secondsOfInt ms = supportedSeconds (ms / 1000) := by
  have parts : 1000 * (ms.natAbs / 1000) + ms.natAbs % 1000 = ms.natAbs := Nat.div_add_mod _ _
  have small : ms.natAbs % 1000 < 1000 := Nat.mod_lt _ (by decide)
  generalize hq : ms.natAbs / 1000 = q at parts
  generalize ms.natAbs % 1000 = r at parts small
  obtain ⟨m, e, heq, hwhole⟩ : ∃ m e, ofIntDiv ms 1000 = .finite (ms < 0) m e ∧
      wholeSecond (ms < 0) m e = ms / 1000 := by
    rcases Nat.eq_zero_or_pos r with rfl | hr
    · have within : Within 0 q q ms.natAbs 1000 := ⟨by omega, by omega⟩
      obtain ⟨m, e, heq, hlower, hupper⟩ := ofRatio_within (ms < 0) (by decide) (by decide) (by omega) within
      obtain ⟨hpos, hneg⟩ := wholeSecond_of_whole (m := m) (q := q) (e := e) (by omega)
      refine ⟨m, e, heq, ?_⟩
      by_cases hms : ms < 0
      · rw [decide_eq_true hms, hneg]
        show -(q : Int) = ms / 1000
        omega
      · rw [decide_eq_false hms, hpos]
        show (q : Int) = ms / 1000
        omega
    · have within : Within 15 (2 ^ 15 * q + 32) (2 ^ 15 * q + 32736) ms.natAbs 1000 :=
        ⟨by omega, by omega⟩
      obtain ⟨m, e, heq, hm⟩ := ofRatio_within (ms < 0) (by decide) (by decide) (by omega) within
      obtain ⟨hpos, hneg⟩ := wholeSecond_of_fraction hm
      refine ⟨m, e, heq, ?_⟩
      by_cases hms : ms < 0
      · rw [decide_eq_true hms, hneg]
        show -(q : Int) - 1 = ms / 1000
        omega
      · rw [decide_eq_false hms, hpos]
        show (q : Int) = ms / 1000
        omega
  have system : isSystemTime (ms / 1000) = true := by
    simp only [isSystemTime, decide_eq_true_eq]
    have : Nat.pow 2 63 = 9223372036854775808 := rfl
    omega
  unfold secondsOfInt
  rw [heq]
  simp only [secondsOfFloat, hwhole, system, if_true]

theorem secondsOfInt_of_large {ms : Int} (h : 1000 * 2 ^ 38 ≤ ms.natAbs) (s : Seconds) :
    secondsOfInt ms ≠ .ok s := by
  have large : ofIntDiv ms 1000 = .infinite (ms < 0) ∨ ∃ m e, ofIntDiv ms 1000 = .finite (ms < 0) m e ∧
      2 ^ 38 * (ratio m e).2 ≤ (ratio m e).1 :=
    le_ofRatio (ms < 0) (by decide) (by decide) (by omega) (by omega)
  unfold secondsOfInt
  rcases large with heq | ⟨m, e, heq, hlow⟩
  · rw [heq]
    simp
  · rw [heq]
    have far : 2 ^ 38 ≤ (wholeSecond (ms < 0) m e).natAbs := le_natAbs_wholeSecond hlow
    intro hok
    simp only [secondsOfFloat] at hok
    split at hok
    · have := (supportedSeconds_eq_ok_iff _ _).1 hok
      omega
    · cases hok

/-- The times of year 1 to year 9999 are accepted, and belong to the last whole second that is not after
them. -/
theorem secondsOfInt_eq_ok_iff (ms s : Int) : secondsOfInt ms = .ok s ↔
    (-62135596800000 ≤ ms ∧ ms ≤ 253402300799999) ∧ s = ms / 1000 := by
  rcases lt_or_ge ms.natAbs (1000 * 2 ^ 38) with h | h
  · rw [secondsOfInt_eq h, supportedSeconds_eq_ok_iff]
    omega
  · have refused := secondsOfInt_of_large h s
    constructor
    · exact fun hok => absurd hok refused
    · omega

end HttpExchange.HttpDate

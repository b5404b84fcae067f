import HttpExchange.Number.Binary64
import Mathlib.Data.Nat.Log
import Mathlib.Tactic.Ring

/-!
# Rounding keeps bounds

A quotient that lies between two multiples of a power of two still does so when it has been rounded to a
binary floating-point number, as long as the power of two is not below the precision. This is all that is
needed of a rounded quotient in order to know its integer part.

## Main statements

* `Binary64.ofRatio_within`: bounds on a quotient are bounds on the number nearest to it.
* `Binary64.le_ofRatio`: a large quotient is not rounded below a small bound.
-/

namespace HttpExchange.Binary64

/-! ## Quotients -/

theorem le_roundQuotient {l num den : Nat} (hden : 0 < den) (h : l * den ≤ num) :
    l ≤ roundQuotient num den := by
  have floor : l ≤ num / den := (Nat.le_div_iff_mul_le hden).2 h
  unfold roundQuotient
  simp only
  split <;> omega

theorem roundQuotient_le {u num den : Nat} (hden : 0 < den) (h : num ≤ u * den) :
    roundQuotient num den ≤ u := by
  have parts : den * (num / den) + num % den = num := Nat.div_add_mod num den
  unfold roundQuotient
  simp only
  split
  · -- A quotient that is rounded up is not an integer, so the bound is above its integer part.
    next hup =>
    have rest : 0 < num % den := by omega
    have below : num / den < u := by
      by_contra hge
      have : den * u ≤ den * (num / den) := Nat.mul_le_mul_left den (by omega)
      have comm : u * den = den * u := Nat.mul_comm u den
      omega
    omega
  · exact Nat.div_le_of_le_mul (by rw [Nat.mul_comm]; exact h)

/-- The number `num / den` lies between `lower` and `upper`, both in units of `2 ^ -k`. -/
structure Within (k lower upper num den : Nat) : Prop where
  lower_le : lower * den ≤ num * 2 ^ k
  le_upper : num * 2 ^ k ≤ upper * den

/-- A lower bound is about the quotient alone. -/
theorem lower_of_same {l num den num' den' : Nat} (h : l * den ≤ num) (hden : 0 < den)
    (same : num' * den = num * den') : l * den' ≤ num' := by
  refine Nat.le_of_mul_le_mul_right ?_ hden
  calc l * den' * den = l * den * den' := by ring
    _ ≤ num * den' := Nat.mul_le_mul_right den' h
    _ = num' * den := same.symm

theorem Within.of_same {k l u num den num' den' : Nat} (h : Within k l u num den) (hden : 0 < den)
    (same : num' * den = num * den') : Within k l u num' den' := by
  constructor
  · refine lower_of_same h.lower_le hden ?_
    rw [Nat.mul_right_comm, same, Nat.mul_right_comm]
  · refine Nat.le_of_mul_le_mul_right ?_ hden
    calc num' * 2 ^ k * den = num' * den * 2 ^ k := by ring
      _ = num * 2 ^ k * den' := by rw [same]; ring
      _ ≤ u * den * den' := Nat.mul_le_mul_right den' h.le_upper
      _ = u * den' * den := by ring

/-! ## Scales -/

theorem rescale_of_nonpos (num den : Nat) {e : Int} (h : e ≤ 0) :
    rescale num den e = (num * 2 ^ (-e).toNat, den) := by
  unfold rescale
  split
  · obtain rfl : e = 0 := by omega
    simp
  · rfl

theorem rescale_of_nonneg (num den : Nat) {e : Int} (h : 0 ≤ e) :
    rescale num den e = (num, den * 2 ^ e.toNat) := by
  unfold rescale
  rw [if_pos h]
  rfl

theorem ratio_of_nonpos (m : Nat) {e : Int} (h : e ≤ 0) : ratio m e = (m, 2 ^ (-e).toNat) := by
  unfold ratio
  split
  · obtain rfl : e = 0 := by omega
    simp
  · rfl

theorem ratio_of_nonneg (m : Nat) {e : Int} (h : 0 ≤ e) : ratio m e = (m * 2 ^ e.toNat, 1) := by
  unfold ratio
  rw [if_pos h]
  rfl

theorem ofRatio_eq (negative : Bool) {num : Nat} (hnum : 0 < num) (den : Nat) :
    ofRatio negative num den =
      ofMantissa negative (roundQuotient (rescale num den (exponentFor num den)).1
        (rescale num den (exponentFor num den)).2) (exponentFor num den) := by
  unfold ofRatio
  rw [if_neg (by omega)]

theorem ratio_den_pos (m : Nat) (e : Int) : 0 < (ratio m e).2 := by
  rcases le_total e 0 with h | h
  · rw [ratio_of_nonpos m h]
    exact Nat.two_pow_pos _
  · rw [ratio_of_nonneg m h]
    exact Nat.one_pos

/-- Half the mantissa with the next exponent is the same number. -/
theorem ratio_half (m : Nat) (e : Int) :
    (ratio m (e + 1)).1 * (ratio (2 * m) e).2 = (ratio (2 * m) e).1 * (ratio m (e + 1)).2 := by
  rcases le_or_gt 0 e with h | h
  · rw [ratio_of_nonneg m (by omega), ratio_of_nonneg (2 * m) h]
    have next : (e + 1).toNat = e.toNat + 1 := by omega
    simp only [next, pow_succ]
    ring
  · rw [ratio_of_nonpos m (by omega), ratio_of_nonpos (2 * m) (by omega)]
    have next : (-e).toNat = (-(e + 1)).toNat + 1 := by omega
    simp only [next, pow_succ]
    ring

/-- What a mantissa and an exponent give is infinite, or the very number that they write. -/
theorem ofMantissa_cases (negative : Bool) (m : Nat) (e : Int) :
    (maxExponent ≤ e ∧ ofMantissa negative m e = .infinite negative) ∨
      ∃ m' e', ofMantissa negative m e = .finite negative m' e' ∧
        (ratio m' e').1 * (ratio m e).2 = (ratio m e).1 * (ratio m' e').2 := by
  by_cases hm : m = Nat.pow 2 53
  · have half : ofMantissa negative m e =
        if maxExponent < e + 1 then .infinite negative else .finite negative (Nat.pow 2 52) (e + 1) := by
      simp only [ofMantissa, if_pos hm]
    rw [half]
    split
    · next he => exact .inl ⟨by omega, rfl⟩
    · have double : m = 2 * Nat.pow 2 52 := by rw [hm]
      rw [double]
      exact .inr ⟨_, _, rfl, ratio_half _ e⟩
  · have same : ofMantissa negative m e =
        if maxExponent < e then .infinite negative else .finite negative m e := by
      simp only [ofMantissa, if_neg hm]
    rw [same]
    split
    · next he => exact .inl ⟨by omega, rfl⟩
    · exact .inr ⟨m, e, rfl, rfl⟩

/-! ## The exponent -/

theorem log2_bounds {n : Nat} (h : 0 < n) : 2 ^ n.log2 ≤ n ∧ n < 2 ^ (n.log2 + 1) :=
  ⟨Nat.log2_self_le (by omega), Nat.lt_log2_self⟩

/-- A quotient below `2 ^ (53 - k)` is rounded to a multiple of `2 ^ -k`, if not to a finer one. -/
theorem exponentFor_le {k num den : Nat} (hk : k ≤ 53) (hnum : 0 < num) (hden : 0 < den)
    (h : num < 2 ^ (53 - k) * den) : exponentFor num den ≤ -k := by
  have logs : num.log2 < 54 - k + den.log2 := by
    have below : 2 ^ num.log2 < 2 ^ (54 - k + den.log2) :=
      calc 2 ^ num.log2 ≤ num := (log2_bounds hnum).1
        _ < 2 ^ (53 - k) * den := h
        _ ≤ 2 ^ (53 - k) * 2 ^ (den.log2 + 1) := Nat.mul_le_mul_left _ (log2_bounds hden).2.le
        _ = 2 ^ (54 - k + den.log2) := by rw [← pow_add]; congr 1; omega
    exact (Nat.pow_lt_pow_iff_right (by omega)).1 below
  unfold exponentFor
  simp only [minExponent]
  split
  · omega
  · -- The guess is one too large only where the integer part has fewer than 53 bits.
    next hfull =>
    by_contra hlarge
    have guess : (num.log2 : Int) - den.log2 - 52 = 1 - k := by omega
    rw [guess] at hfull
    apply hfull
    rcases Nat.eq_zero_or_pos k with hzero | hpos
    · have one : (1 - k : Int) = 1 := by omega
      rw [one, rescale_of_nonneg num den (by decide)]
      refine (Nat.div_lt_iff_lt_mul (Nat.mul_pos hden (Nat.two_pow_pos _))).2 ?_
      calc num < 2 ^ (53 - k) * den := h
        _ = 2 ^ 53 * den := by rw [hzero]
        _ = Nat.pow 2 52 * (den * 2 ^ (1 : Int).toNat) := by
          change _ = 2 ^ 52 * (den * 2 ^ 1)
          ring
    · rw [rescale_of_nonpos _ _ (by omega)]
      refine (Nat.div_lt_iff_lt_mul hden).2 ?_
      have shift : (-(1 - (k : Int))).toNat = k - 1 := by omega
      rw [shift]
      calc num * 2 ^ (k - 1) < 2 ^ (53 - k) * den * 2 ^ (k - 1) :=
            Nat.mul_lt_mul_of_pos_right h (Nat.two_pow_pos _)
        _ = 2 ^ (53 - k + (k - 1)) * den := by rw [pow_add]; ring
        _ = Nat.pow 2 52 * den := by congr 2; omega

/-- Where the spacing is more than one, the mantissa has all its bits. -/
theorem full_mantissa {num den : Nat} (hnum : 0 < num) (hden : 0 < den)
    (h : 0 < exponentFor num den) :
    2 ^ 52 * (den * 2 ^ (exponentFor num den).toNat) ≤ num := by
  unfold exponentFor at h ⊢
  simp only [minExponent] at h ⊢
  split at h
  · next hshort =>
    rw [if_pos hshort]
    have exponent : (max (-1074) ((num.log2 : Int) - den.log2 - 52 - 1)).toNat =
        num.log2 - den.log2 - 53 := by omega
    rw [exponent]
    calc 2 ^ 52 * (den * 2 ^ (num.log2 - den.log2 - 53))
        ≤ 2 ^ 52 * (2 ^ (den.log2 + 1) * 2 ^ (num.log2 - den.log2 - 53)) := by
          gcongr
          exact (log2_bounds hden).2.le
      _ = 2 ^ num.log2 := by rw [← pow_add, ← pow_add]; congr 1; omega
      _ ≤ num := (log2_bounds hnum).1
  · next hfull =>
    rw [if_neg hfull]
    rw [rescale_of_nonneg _ _ (by omega), not_lt] at hfull
    have exponent : (max (-1074) ((num.log2 : Int) - den.log2 - 52)).toNat =
        ((num.log2 : Int) - den.log2 - 52).toNat := by omega
    rw [exponent]
    exact (Nat.le_div_iff_mul_le (Nat.mul_pos hden (Nat.two_pow_pos _))).1 hfull

/-! ## The nearest number -/

/-- Bounds on a quotient are bounds on the number nearest to it, as long as the number can tell them
apart. -/
theorem ofRatio_within (negative : Bool) {k l u num den : Nat} (hk : k ≤ 53) (hden : 0 < den)
    (h : num < 2 ^ (53 - k) * den) (hw : Within k l u num den) :
    ∃ m e, ofRatio negative num den = .finite negative m e ∧
      Within k l u (ratio m e).1 (ratio m e).2 := by
  rcases Nat.eq_zero_or_pos num with rfl | hnum
  · refine ⟨0, minExponent, rfl, hw.of_same hden ?_⟩
    rw [ratio_of_nonpos 0 (by decide)]
    simp
  have he : exponentFor num den ≤ -k := exponentFor_le hk hnum hden h
  have rounded := ofRatio_eq negative hnum den
  generalize exponentFor num den = e at he rounded
  rw [rescale_of_nonpos num den (by omega)] at rounded
  have split : 2 ^ (-e).toNat = 2 ^ ((-e).toNat - k) * 2 ^ k := by
    rw [← pow_add]
    congr 1
    omega
  -- The mantissa is a rounded quotient, in units so fine that the bounds are integers there.
  have exact : Within k l u (roundQuotient (num * 2 ^ (-e).toNat) den) (2 ^ (-e).toNat) := by
    constructor
    · rw [split, ← mul_assoc l]
      refine Nat.mul_le_mul_right _ (le_roundQuotient hden ?_)
      calc l * 2 ^ ((-e).toNat - k) * den = l * den * 2 ^ ((-e).toNat - k) := by ring
        _ ≤ num * 2 ^ k * 2 ^ ((-e).toNat - k) := Nat.mul_le_mul_right _ hw.lower_le
        _ = num * (2 ^ ((-e).toNat - k) * 2 ^ k) := by ring
    · rw [split, ← mul_assoc u]
      refine Nat.mul_le_mul_right _ (roundQuotient_le hden ?_)
      calc num * (2 ^ ((-e).toNat - k) * 2 ^ k) = num * 2 ^ k * 2 ^ ((-e).toNat - k) := by ring
        _ ≤ u * den * 2 ^ ((-e).toNat - k) := Nat.mul_le_mul_right _ hw.le_upper
        _ = u * 2 ^ ((-e).toNat - k) * den := by ring
  rcases ofMantissa_cases negative (roundQuotient (num * 2 ^ (-e).toNat) den) e with
    ⟨hmax, -⟩ | ⟨m', e', heq, same⟩
  · have : maxExponent = 971 := rfl
    omega
  · rw [ratio_of_nonpos (roundQuotient _ _) (e := e) (by omega)] at same
    exact ⟨m', e', rounded.trans heq, exact.of_same (Nat.two_pow_pos _) same⟩

theorem le_ofRatio (negative : Bool) {l num den : Nat} (hl : l ≤ 2 ^ 52) (hden : 0 < den)
    (hnum : 0 < num) (h : l * den ≤ num) :
    ofRatio negative num den = .infinite negative ∨
      ∃ m e, ofRatio negative num den = .finite negative m e ∧ l * (ratio m e).2 ≤ (ratio m e).1 := by
  have rounded := ofRatio_eq negative hnum den
  have full := full_mantissa hnum hden
  generalize exponentFor num den = e at rounded full
  have exact : l * (ratio (roundQuotient (rescale num den e).1 (rescale num den e).2) e).2 ≤
      (ratio (roundQuotient (rescale num den e).1 (rescale num den e).2) e).1 := by
    rcases le_or_gt e 0 with he | he
    · rw [rescale_of_nonpos num den he, ratio_of_nonpos _ he]
      refine le_roundQuotient hden ?_
      calc l * 2 ^ (-e).toNat * den = l * den * 2 ^ (-e).toNat := by ring
        _ ≤ num * 2 ^ (-e).toNat := Nat.mul_le_mul_right _ h
    · rw [rescale_of_nonneg num den he.le, ratio_of_nonneg _ he.le]
      have mantissa : 2 ^ 52 ≤ roundQuotient num (den * 2 ^ e.toNat) :=
        le_roundQuotient (Nat.mul_pos hden (Nat.two_pow_pos _)) (full he)
      calc l * 1 ≤ 2 ^ 52 * 1 := Nat.mul_le_mul_right 1 hl
        _ ≤ roundQuotient num (den * 2 ^ e.toNat) * 2 ^ e.toNat :=
          Nat.mul_le_mul mantissa (Nat.one_le_two_pow)
  rw [rounded]
  rcases ofMantissa_cases negative (roundQuotient (rescale num den e).1 (rescale num den e).2) e with
    ⟨-, heq⟩ | ⟨m', e', heq, same⟩
  · exact .inl heq
  · exact .inr ⟨m', e', heq, lower_of_same exact (ratio_den_pos _ _) same⟩

end HttpExchange.Binary64

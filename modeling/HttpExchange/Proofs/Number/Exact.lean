import HttpExchange.Proofs.Number.Decimal
import Mathlib.Algebra.Order.Field.Power

/-!
# Numbers that are integers

A number of binary floating point has an exact value, which may be an integer. As a header value such a number has
the text of the integer, which is its decimal form, however large the number is, and has never more digits than are
converted.

## Main statements

* `Binary64.toInt?_eq_some_iff`: the integer that a number is told to be is its exact value.
* `Binary64.length_digits_le`: such an integer is never too long.
* `Value.IsInteger.headerText_eq`, `Value.headerInteger_toString`: the text of an integer, and what it is read as.
-/

namespace HttpExchange

namespace Binary64

/-- The exact value of a number, if it is finite. -/
def rational? : Binary64 → Option ℚ
  | .finite negative m e => some ((if negative then -1 else 1) * m * 2 ^ e)
  | _ => none

/-- Are mantissa and exponent in the range of the format? -/
def IsInRange : Binary64 → Prop
  | .finite _ m e => m < 2 ^ 53 ∧ minExponent ≤ e ∧ e ≤ maxExponent
  | _ => True

/-- The value of the numerator and the denominator. -/
theorem ratio_eq (m : Nat) (e : Int) : ((ratio m e).1 : ℚ) / (ratio m e).2 = m * 2 ^ e := by
  unfold ratio
  split
  · next he =>
    obtain ⟨k, rfl⟩ := Int.eq_ofNat_of_zero_le he
    simp
  · next he =>
    obtain ⟨k, hk⟩ := Int.eq_ofNat_of_zero_le (show 0 ≤ -e by omega)
    obtain rfl : e = -(k : Int) := by omega
    simp [div_eq_mul_inv]

theorem ratio_snd_pos (m : Nat) (e : Int) : 0 < (ratio m e).2 := by
  unfold ratio
  split
  · exact Nat.one_pos
  · exact Nat.pow_pos Nat.two_pos

/-- A quotient is an integer if the division leaves no rest. -/
theorem div_eq_intCast_iff {num den : Nat} (hden : 0 < den) {n : Int} :
    (num : ℚ) / den = n ↔ num % den = 0 ∧ ((num / den : Nat) : Int) = n := by
  have positive : (den : ℚ) ≠ 0 := by positivity
  rw [div_eq_iff positive]
  constructor
  · intro h
    have product : (num : Int) = n * den := by exact_mod_cast h
    obtain ⟨k, rfl⟩ : ∃ k : Nat, n = k :=
      Int.eq_ofNat_of_zero_le (Int.nonneg_of_mul_nonneg_left (product ▸ Int.natCast_nonneg num) (by omega))
    obtain rfl : num = k * den := by exact_mod_cast product
    simp [Nat.mul_div_cancel _ hden]
  · rintro ⟨rest, rfl⟩
    have product : num / den * den = num := Nat.div_mul_cancel (Nat.dvd_of_mod_eq_zero rest)
    exact_mod_cast product.symm

/-- The integer that a number is told to be is its exact value. -/
theorem toInt?_eq_some_iff {x : Binary64} {n : Int} : x.toInt? = some n ↔ x.rational? = some (n : ℚ) := by
  cases x with
  | nan | infinite => simp [toInt?, rational?]
  | finite negative m e =>
    have whole (k : Int) : (m : ℚ) * 2 ^ e = k ↔
        (ratio m e).1 % (ratio m e).2 = 0 ∧ (((ratio m e).1 / (ratio m e).2 : Nat) : Int) = k := by
      rw [← ratio_eq m e]
      exact div_eq_intCast_iff (ratio_snd_pos m e)
    have told (k : Int) : (if (ratio m e).1 % (ratio m e).2 = 0 then some k else none) = some n ↔
        (ratio m e).1 % (ratio m e).2 = 0 ∧ k = n := by simp
    unfold rational?
    rw [Option.some_inj]
    refine (told _).trans ?_
    cases negative with
    | false =>
      rw [if_neg Bool.false_ne_true, one_mul]
      exact (whole n).symm
    | true =>
      show _ ∧ -(((ratio m e).1 / (ratio m e).2 : Nat) : Int) = n ↔ _
      rw [if_pos rfl, neg_eq_iff_eq_neg, ← whole (-n), Int.cast_neg, neg_one_mul, neg_mul, neg_eq_iff_eq_neg]

/-- The magnitude of an integer that is the exact value of a number. -/
theorem natAbs_eq_of_rational? {negative : Bool} {m : Nat} {e n : Int}
    (h : (finite negative m e).rational? = some (n : ℚ)) : (n.natAbs : ℚ) = m * 2 ^ e := by
  have value := Option.some.inj h
  have positive : (0 : ℚ) ≤ m * 2 ^ e := by positivity
  rw [Nat.cast_natAbs, Int.cast_abs, ← value]
  cases negative with
  | false => rw [if_neg Bool.false_ne_true, one_mul, abs_of_nonneg positive]
  | true => rw [if_pos rfl, neg_one_mul, neg_mul, abs_neg, abs_of_nonneg positive]

/-- An integer that is the exact value of a number is never too long to be converted. -/
theorem length_digits_le {x : Binary64} (hx : x.IsInRange) {n : Int} (h : x.rational? = some (n : ℚ)) :
    (Numeral.digits n.natAbs).length ≤ Numeral.maxDigits := by
  cases x with
  | nan | infinite => cases h
  | finite negative m e =>
    obtain ⟨hm, -, he⟩ := hx
    obtain ⟨k, hk, enough⟩ : ∃ k : Nat, maxExponent = k ∧ 53 + k ≤ Numeral.maxDigits := ⟨971, rfl, by decide⟩
    have mantissa : (m : ℚ) < 2 ^ 53 := by exact_mod_cast hm
    have below : (n.natAbs : ℚ) < (2 ^ (53 + k) : Nat) := calc
      (n.natAbs : ℚ) = m * 2 ^ e := natAbs_eq_of_rational? h
      _ ≤ m * 2 ^ (k : Int) := by
        gcongr
        · exact one_le_two
        · omega
      _ < 2 ^ 53 * 2 ^ (k : Int) := mul_lt_mul_of_pos_right mantissa (by positivity)
      _ = (2 ^ (53 + k) : Nat) := by
        push_cast
        rw [zpow_natCast, pow_add]
    refine (Nat.length_toDigits_le_iff (by decide) (by decide)).2 ?_
    calc n.natAbs < 2 ^ (53 + k) := Nat.cast_lt.1 below
      _ ≤ 10 ^ (53 + k) := Nat.pow_le_pow_left (by decide) _
      _ ≤ 10 ^ Numeral.maxDigits := Nat.pow_le_pow_right (by decide) enough

end Binary64

namespace Value

/-- The value is exactly this integer: an integer that is not too long to be converted, or a floating-point number
of the format. -/
inductive IsInteger : Value → Int → Prop where
  | int (m : Mark) (n : Int) (short : (Numeral.digits n.natAbs).length ≤ Numeral.maxDigits) : IsInteger (.int m n) n
  | float (m : Mark) {x : Binary64} {n : Int} (range : x.IsInRange) (exact : x.rational? = some (n : ℚ)) :
      IsInteger (.float m x) n

theorem truncate_of_toInt? {x : Binary64} {n : Int} (h : x.toInt? = some n) : truncate x = .ok n := by
  cases x with
  | nan | infinite => cases h
  | finite negative m e =>
    unfold Binary64.toInt? at h
    dsimp only at h
    split at h
    · exact congrArg Except.ok (Option.some.inj h)
    · cases h

/-- The decimal form of an integer is read as the integer. -/
theorem headerInteger_toString {n : Int} (short : (Numeral.digits n.natAbs).length ≤ Numeral.maxDigits)
    (name : String) (m : Mark) : (Value.text m (toString n)).headerInteger name = .ok n := by
  rw [← intText_eq_toString, headerInteger, intText, String.toList_ofList, Numeral.trim_write,
    Numeral.read_write short]

namespace IsInteger

variable {v : Value} {n : Int} (h : v.IsInteger n)

include h

theorem short : (Numeral.digits n.natAbs).length ≤ Numeral.maxDigits := by
  cases h with
  | int m n short => exact short
  | float m range exact => exact Binary64.length_digits_le range exact

theorem headerText_eq : v.headerText = .ok (toString n) := by
  cases h with
  | int m n short => rw [headerText, integerText, if_neg (Nat.not_lt.2 short), intText_eq_toString]
  | float m range exact =>
    rw [headerText, Binary64.toInt?_eq_some_iff.2 exact]
    exact congrArg Except.ok (intText_eq_toString n)

theorem headerInteger_eq (name : String) : v.headerInteger name = .ok n := by
  cases h with
  | int m n short => rfl
  | float m range exact => exact truncate_of_toInt? (Binary64.toInt?_eq_some_iff.2 exact)

theorem toInteger_eq : v.toInteger = .ok n := by
  cases h with
  | int m n short => rfl
  | float m range exact => exact truncate_of_toInt? (Binary64.toInt?_eq_some_iff.2 exact)

theorem ne_null : v ≠ .null := by
  rintro rfl
  cases h

end IsInteger

end Value

end HttpExchange

/-!
# Binary floating-point numbers

The numbers of 64-bit binary floating point, by value: a sign, a mantissa of at most 53 bits and a power
of two from `-1074` on. All arithmetic is exact on natural numbers and rounds once, to the nearest
representable number, with ties to the even mantissa.
-/

namespace HttpExchange

/-- A 64-bit binary floating-point number. -/
inductive Binary64 where
  /-- Not a number. -/
  | nan
  /-- An infinity. -/
  | infinite (negative : Bool)
  /-- The number `mantissa * 2 ^ exponent`, negated if `negative`. The mantissa is below `2 ^ 53`, the
  exponent at least `-1074`, and one of the two is as large, respectively as small, as possible. -/
  | finite (negative : Bool) (mantissa : Nat) (exponent : Int)
  deriving DecidableEq, Repr

namespace Binary64

/-- Zero. -/
def zero : Binary64 := .finite false 0 (-1074)

/-- The least exponent. -/
def minExponent : Int := -1074

/-- The greatest exponent. -/
def maxExponent : Int := 971

/-- The quotient of two natural numbers, rounded to the nearest one, ties to even. -/
def roundQuotient (num den : Nat) : Nat :=
  let floor := num / den
  let rest := num % den
  if den < 2 * rest ∨ (2 * rest = den ∧ floor % 2 = 1) then floor + 1 else floor

/-- Numerator and denominator of `num / den / 2 ^ exponent`. -/
def rescale (num den : Nat) (exponent : Int) : Nat × Nat :=
  if 0 ≤ exponent then (num, den * Nat.pow 2 exponent.toNat)
  else (num * Nat.pow 2 (-exponent).toNat, den)

/-- The exponent at which the integer part of `num / den` has 53 bits, or the least one. -/
def exponentFor (num den : Nat) : Int :=
  let guess : Int := (num.log2 : Int) - (den.log2 : Int) - 52
  let (n, d) := rescale num den guess
  max minExponent (if n / d < Nat.pow 2 52 then guess - 1 else guess)

/-- The number with the given mantissa and exponent; a mantissa of 54 bits is halved first, and what
lies beyond the greatest number is infinite. -/
def ofMantissa (negative : Bool) (mantissa : Nat) (exponent : Int) : Binary64 :=
  let (m, e) := if mantissa = Nat.pow 2 53 then (Nat.pow 2 52, exponent + 1)
    else (mantissa, exponent)
  if maxExponent < e then .infinite negative else .finite negative m e

/-- The number nearest to `num / den`, negated if `negative`. -/
def ofRatio (negative : Bool) (num den : Nat) : Binary64 :=
  if num = 0 then .finite negative 0 minExponent
  else
    let exponent := exponentFor num den
    let (n, d) := rescale num den exponent
    ofMantissa negative (roundQuotient n d) exponent

/-- The magnitude of a finite number as numerator and denominator. -/
def ratio (mantissa : Nat) (exponent : Int) : Nat × Nat :=
  if 0 ≤ exponent then (mantissa * Nat.pow 2 exponent.toNat, 1)
  else (mantissa, Nat.pow 2 (-exponent).toNat)

/-- The quotient of an integer by a positive number. -/
def ofIntDiv (n : Int) (den : Nat) : Binary64 := ofRatio (n < 0) n.natAbs den

/-- The number divided by a positive number. -/
def divNat (x : Binary64) (den : Nat) : Binary64 :=
  match x with
  | .nan => .nan
  | .infinite negative => .infinite negative
  | .finite negative m e =>
    let (n, d) := ratio m e
    ofRatio negative n (d * den)

/-- The product of a number and a natural number, which is rounded first. -/
def mulNat (x : Binary64) (count : Nat) : Binary64 :=
  match x, ofRatio false count 1 with
  | .finite negative m e, .finite _ m' e' =>
    let (n, d) := ratio m e
    let (n', d') := ratio m' e'
    ofRatio negative (n * n') (d * d')
  | _, _ => .nan

/-- The integer part, toward zero, of a finite number. -/
def truncate (negative : Bool) (mantissa : Nat) (exponent : Int) : Int :=
  let (n, d) := ratio mantissa exponent
  if negative then -(n / d : Nat) else (n / d : Nat)

/-- The integer that the number is, if it is one. -/
def toInt? : Binary64 → Option Int
  | .finite negative m e =>
    let (n, d) := ratio m e
    if n % d = 0 then some (truncate negative m e) else none
  | _ => none

/-- Is the number less than one, regardless of its sign? -/
def isBelowOne : Binary64 → Bool
  | .finite _ m e =>
    let (n, d) := ratio m e
    n < d
  | _ => false

/-- Is the number different from zero? Not-a-number is. -/
def isNonzero : Binary64 → Bool
  | .finite _ m _ => m != 0
  | _ => true

end Binary64

end HttpExchange

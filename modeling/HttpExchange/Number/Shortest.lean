import HttpExchange.Number.Binary64
import HttpExchange.Number.Numeral

/-!
# Shortest decimal notation

A floating-point number is written with the fewest significant digits that read back as the same number,
and of those with the digits nearest to it; of two that are equally near, the one with an even last digit
is taken. Numbers from `10 ^ -4` up to `10 ^ 16` are written in positional notation, with at least one
digit after the point; the others with an exponent of at least two digits and its sign.
-/

namespace HttpExchange.Binary64

/-- The decimal exponent of `num / den`: the `k` with `10 ^ k ≤ num / den < 10 ^ (k + 1)`. -/
def decimalExponent (num den : Nat) : Int :=
  if den ≤ num then ((Nat.toDigits 10 (num / den)).length : Int) - 1
  else -((Nat.toDigits 10 ((den - 1) / num)).length : Int)

/-- Numerator and denominator of `num / den / 10 ^ k`. -/
def rescaleDecimal (num den : Nat) (k : Int) : Nat × Nat :=
  if 0 ≤ k then (num, den * Nat.pow 10 k.toNat) else (num * Nat.pow 10 (-k).toNat, den)

/-- The number nearest to `n * 10 ^ k`. -/
def ofDecimal (negative : Bool) (n : Nat) (k : Int) : Binary64 :=
  if 0 ≤ k then ofRatio negative (n * Nat.pow 10 k.toNat) 1
  else ofRatio negative n (Nat.pow 10 (-k).toNat)

/-- The multiple of `10 ^ k` that reads back as the positive number `x = num / den` and is nearest to
it, given by its factor; of two that are equally near, the even one. -/
def decimalOn (x : Binary64) (num den : Nat) (k : Int) : Option Nat :=
  let (n, d) := rescaleDecimal num den k
  let below := n / d
  let closer := if roundQuotient n d = below then [below, below + 1] else [below + 1, below]
  closer.find? fun candidate => ofDecimal false candidate k = x

/-- The shortest digits of a positive number as a factor and a power of ten. Seventeen digits always
suffice. -/
def shortest (mantissa : Nat) (exponent : Int) : Nat × Int :=
  let (num, den) := ratio mantissa exponent
  let lead := decimalExponent num den
  let found := (List.range 17).findSome? fun (more : Nat) =>
    let k := lead - (more : Int)
    (decimalOn (.finite false mantissa exponent) num den k).map fun n => (n, k)
  found.getD (num / den, 0)

/-- The digits of a number in positional notation, the point standing after the first `point` digits. -/
def positional (digits : List Char) (point : Int) : List Char :=
  if point ≤ 0 then '0' :: '.' :: List.replicate (-point).toNat '0' ++ digits
  else if digits.length ≤ point.toNat then
    digits ++ List.replicate (point.toNat - digits.length) '0' ++ ['.', '0']
  else digits.take point.toNat ++ '.' :: digits.drop point.toNat

/-- The digits of a number in scientific notation. -/
def scientific (digits : List Char) (exponent : Int) : List Char :=
  let significand := match digits with
    | d :: e :: rest => d :: '.' :: e :: rest
    | ds => ds
  significand ++ 'e' :: (if exponent < 0 then '-' else '+') :: Numeral.padded 2 exponent.natAbs

/-- The digits without the zeros at their end. -/
def dropTrailingZeros (digits : List Char) : List Char :=
  (digits.reverse.dropWhile (· == '0')).reverse

/-- The shortest decimal notation of a number. -/
def write : Binary64 → List Char
  | .nan => ['n', 'a', 'n']
  | .infinite negative => (if negative then ['-'] else []) ++ ['i', 'n', 'f']
  | .finite negative m e =>
    let sign := if negative then ['-'] else []
    if m = 0 then sign ++ ['0', '.', '0']
    else
      let (n, k) := shortest m e
      let all := Numeral.digits n
      let point : Int := all.length + k
      let digits := dropTrailingZeros all
      sign ++ if -4 < point ∧ point ≤ 16 then positional digits point
        else scientific digits (point - 1)

/-! ## Reading -/

/-- A text without its underscores, each of which must stand between two digits; `afterDigit` tells whether a
digit stands before the text. -/
def unseparated? (afterDigit : Bool) : List Char → Option (List Char)
  | [] => some []
  | '_' :: c :: rest =>
    if afterDigit && Text.isDigit c then (unseparated? true rest).map (c :: ·) else none
  | c :: rest => if c = '_' then none else (unseparated? (Text.isDigit c) rest).map (c :: ·)

/-- The numeral up to an exponent mark: the digits, and how many of them follow the point. -/
def readSignificand (cs : List Char) : Option (List Char × Nat) :=
  let whole := cs.takeWhile Text.isDigit
  match cs.dropWhile Text.isDigit with
  | [] => if whole.isEmpty then none else some (whole, 0)
  | '.' :: fraction =>
    if fraction.all Text.isDigit && !(whole.isEmpty && fraction.isEmpty) then
      some (whole ++ fraction, fraction.length)
    else none
  | _ => none

/-- The exponent part of a numeral. An exponent so large that the number is zero or infinite in any
case is cut down. -/
def readExponent (cs : List Char) : Option Int :=
  let (negative, digits) := Numeral.takeSign cs
  if digits.isEmpty || !digits.all Text.isDigit then none
  else
    let magnitude : Int := min (Text.digitsValue digits) 100000
    some (if negative then -magnitude else magnitude)

/-- The number that a decimal text writes: a numeral with an optional fraction and exponent, or one of
the words for the infinities and not-a-number. Single underscores may stand between digits. -/
def read? (s : String) : Option Binary64 := do
  let (negative, cs) := Numeral.takeSign (← unseparated? false (Text.trim s.toList))
  match String.ofList (cs.map Char.toLower) with
  | "nan" => some .nan
  | "inf" | "infinity" => some (.infinite negative)
  | _ =>
    let isMark (c : Char) : Bool := c == 'e' || c == 'E'
    let exponent := match cs.dropWhile fun c => !isMark c with
      | [] => some 0
      | _ :: rest => readExponent rest
    match readSignificand (cs.takeWhile fun c => !isMark c), exponent with
    | some (digits, places), some e =>
      some (ofDecimal negative (Text.digitsValue digits) (e - places))
    | _, _ => none

end HttpExchange.Binary64

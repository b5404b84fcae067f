import HttpExchange.Text.Blank
import HttpExchange.Text.Character

/-!
# Integer numerals

Integers are written in decimal digits with a minus sign in front of the negative ones. Reading is more
generous: white space around the numeral, a plus sign, the decimal digits of any script and single
underscores between digits are accepted. Numerals of more than 4300 digits are refused, whatever their
value, because the time to convert them grows with the square of their length.
-/

namespace HttpExchange.Numeral

open Text

/-- Why a text is not read as an integer. -/
inductive Refusal where
  /-- The text is not a numeral. -/
  | malformed
  /-- The numeral has more digits than are converted. -/
  | tooLong (digits : Nat)
  deriving DecidableEq, Repr

/-- The most digits that are converted. -/
def maxDigits : Nat := 4300

/-- White space around a numeral. The information separators of ASCII do not count as such here. -/
def isPadding (c : Char) : Bool := isBlank c && !(0x1C ≤ c.toNat && c.toNat ≤ 0x1F)

/-- The sign in front of a numeral, as "is negative", and what follows it. -/
def takeSign : List Char → Bool × List Char
  | '-' :: rest => (true, rest)
  | '+' :: rest => (false, rest)
  | cs => (false, cs)

/-- May `c` occur after the sign of a numeral? -/
def isDigitOrSeparator (c : Char) : Bool := c == '_' || isDigit c

/-- Does every underscore stand between two digits? -/
def separatorsWithin : List Char → Bool
  | [] => false
  | [c] => c != '_'
  | c :: d :: rest => c != '_' && (if d = '_' then separatorsWithin rest else separatorsWithin (d :: rest))

/-- The integer that a text writes. -/
def read (cs : List Char) : Except Refusal Int :=
  let (negative, rest) := takeSign (cs.dropWhile isPadding)
  let body := rest.takeWhile isDigitOrSeparator
  let digits := body.filter (· != '_')
  if !separatorsWithin body then .error .malformed
  else if maxDigits < digits.length then .error (.tooLong digits.length)
  else if !(rest.dropWhile isDigitOrSeparator).all isPadding then .error .malformed
  else
    let magnitude : Int := digitsValue digits
    .ok (if negative then -magnitude else magnitude)

/-- Does an integer fit a signed number of so many bits? -/
def fitsSigned (bits : Nat) (n : Int) : Bool :=
  let bound : Int := Nat.pow 2 (bits - 1)
  n < bound && -bound ≤ n

/-- The decimal digits of a natural number. -/
def digits (n : Nat) : List Char := Nat.toDigits 10 n

/-- The numeral of an integer. -/
def write (n : Int) : List Char :=
  if n < 0 then '-' :: digits n.natAbs else digits n.natAbs

/-- `n` in decimal digits, with zeros in front up to `width` digits. -/
def padded (width n : Nat) : List Char := (digits n).leftpad width '0'

end HttpExchange.Numeral

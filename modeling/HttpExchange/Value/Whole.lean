import HttpExchange.Fault
import HttpExchange.Value.Identity

/-!
# Whole numbers

A status or a size is a whole number. It is kept as it was given, and a truth value will do as well: it
counts as one or zero.
-/

namespace HttpExchange

/-- A whole number as it was given. -/
inductive Whole where
  /-- An integer. -/
  | int (mark : Mark) (n : Int)
  /-- A truth value. -/
  | bool (b : Bool)
  deriving DecidableEq, Repr

namespace Whole

/-- The integer for which the number counts. -/
def toInt : Whole → Int
  | .int _ n => n
  | .bool b => if b then 1 else 0

/-- The number as a value. -/
def value : Whole → Value
  | .int m n => .int m n
  | .bool b => .bool b

/-- A built-in number. -/
def builtIn (n : Int) : Whole := .int .unique n

/-- The number when it is put to a place. -/
def owned (place : Place) : Whole → Whole
  | .int m n => .int ((Value.int m n).owned place).mark n
  | .bool b => .bool b

/-- What the number becomes when its value changes its mark. -/
def map (f : Value → Value) (w : Whole) : Whole :=
  match f w.value with
  | .int m n => .int m n
  | _ => w

/-- A built-in number counts for itself. -/
@[simp] theorem toInt_builtIn (n : Int) : (builtIn n).toInt = n := rfl

/-- Where a number is put does not change it. -/
@[simp] theorem toInt_owned (place : Place) (w : Whole) : (w.owned place).toInt = w.toInt := by
  cases w <;> rfl

end Whole

/-- The whole number that a value must be. -/
def Value.requireWhole : Value → Except Fault Whole
  | .int m n => .ok (.int m n)
  | .bool b => .ok (.bool b)
  | _ => .error .wrongType

end HttpExchange

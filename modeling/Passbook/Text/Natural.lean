/-!
# Reading natural numbers

A natural number below a bound is read from decimal digits with an optional plus sign.  The first
character that goes wrong decides the error: it is no digit, or the number grows beyond the bound.
-/

namespace Passbook.Text

/-- Why a text is no natural number below a bound. -/
inductive NaturalError where
  | empty
  | notADigit
  | tooLarge
deriving DecidableEq, Repr

def NaturalError.message : NaturalError → String
  | .empty => "cannot parse integer from empty string"
  | .notADigit => "invalid digit found in string"
  | .tooLarge => "number too large to fit in target type"

/-- Read digits behind a number. -/
def readDigitsBelow (bound : Nat) : List Char → Nat → Except NaturalError Nat
  | [], n => .ok n
  | c :: rest, n =>
    if !c.isDigit then .error .notADigit
    else
      let longer := n * 10 + (c.toNat - '0'.toNat)
      if longer < bound then readDigitsBelow bound rest longer else .error .tooLarge

/-- Read a natural number below a bound. -/
def readNaturalBelow (bound : Nat) (text : String) : Except NaturalError Nat :=
  match text.toList with
  | [] => .error .empty
  | ['+'] => .error .notADigit
  | '+' :: digits => readDigitsBelow bound digits 0
  | digits => readDigitsBelow bound digits 0

example : (readNaturalBelow 256 "+0255").toOption = some 255 := by decide +kernel

example : (readNaturalBelow 256 "256").toOption = none := by decide +kernel

end Passbook.Text

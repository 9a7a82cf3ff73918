import Passbook.Binary.Shortest
/-!
# JSON numbers

A number literal and the value it stands for.  A literal without fraction and exponent that fits 64 bits
is an integer; any other literal is a number of double precision, obtained from a significand of 64 bits
by a single multiplication with, or division by, a power of ten.
-/

namespace Passbook.Json

-- Powers are those of natural numbers and integers, whatever else is in scope.
attribute [local instance (2000)] instPowNat

structure Exponent where
  negative : Bool
  digits : List Char
deriving DecidableEq, Repr

/-- The parts of a number literal.  There is a fraction exactly if the list of its digits is not
empty. -/
structure NumberLiteral where
  negative : Bool
  whole : List Char
  fraction : List Char
  exponent : Option Exponent
deriving DecidableEq, Repr

inductive NumberValue where
  | integer (n : Int)
  | double (negative : Bool) (magnitude : Double)
deriving DecidableEq, Repr

namespace NumberLiteral

def digitValue (c : Char) : Nat := c.toNat - '0'.toNat

def significandBound : Nat := 2 ^ (64 : Nat)

/-- Append digits to a significand as long as there is room.  The digits left over come second. -/
def gather : List Char → Nat → Nat × List Char
  | [], significand => (significand, [])
  | c :: rest, significand =>
    let longer := significand * 10 + digitValue c
    if longer < significandBound then gather rest longer else (significand, c :: rest)

/-- The power of ten nearest to which a magnitude is still in range. -/
def greatestPower : Nat := 308

/-- A power of ten, rounded. -/
def powerOfTen (n : Nat) : Double := (Double.nearest? (10 ^ n) 1).getD .zero

/-- `significand * 10 ^ exponent`, in one step where the power of ten is in range.  Of two divisions by
the greatest power of ten nothing is left over. -/
def scale (significand : Nat) (exponent : Int) : Option Double := do
  let x ← Double.nearest? significand 1
  if x.isZero then some x
  else if 0 ≤ exponent then
    if exponent ≤ greatestPower then x.mul? (powerOfTen exponent.toNat) else none
  else
    let power := exponent.natAbs
    if power ≤ greatestPower then x.div? (powerOfTen power)
    else if power ≤ 2 * greatestPower then do
      let reduced ← x.div? (powerOfTen greatestPower)
      reduced.div? (powerOfTen (power - greatestPower))
    else some .zero

/-- Exponents are read up to this bound. -/
def exponentBound : Nat := 2 ^ (31 : Nat)

/-- The value of the digits of an exponent. -/
def Exponent.magnitude (e : Exponent) : Nat :=
  e.digits.foldl (fun n c => n * 10 + digitValue c) 0

/-- The magnitude of a literal, read as one of double precision.  There is none if it is out of range. -/
def magnitude? (literal : NumberLiteral) : Option Double :=
  let (significand, surplus) := gather literal.whole 0
  let (significand, skipped) := gather literal.fraction significand
  let shift : Int := (surplus.length : Int) - (literal.fraction.length - skipped.length : Nat)
  match literal.exponent with
  | none => scale significand shift
  | some e =>
    let power := Exponent.magnitude e
    if power < exponentBound then
      scale significand (if e.negative then shift - power else shift + power)
    else if significand = 0 ∨ e.negative then some .zero
    else none

/-- The value of a literal.  There is none if it is out of range. -/
def value? (literal : NumberLiteral) : Option NumberValue :=
  let integer? : Option Int :=
    match gather literal.whole 0 with
    | (n, []) =>
      if literal.fraction ≠ [] ∨ literal.exponent.isSome then none
      else if !literal.negative then some n
      else if n = 0 ∨ 2 ^ (63 : Nat) < n then none
      else some (-(n : Int))
    | _ => none
  match integer? with
  | some n => some (.integer n)
  | none => literal.magnitude?.map (.double literal.negative)

end NumberLiteral

namespace NumberValue

def toText : NumberValue → String
  | integer n => toString n
  | double negative magnitude => (if negative then "-" else "") ++ magnitude.toJsonText

/-- Written out without an exponent. -/
def toPlainText : NumberValue → String
  | integer n => toString n
  | double negative magnitude => (if negative then "-" else "") ++ magnitude.toPlainText

example :
    (NumberLiteral.value? ⟨false, ['1'], [], some ⟨true, ['2', '9']⟩⟩).map toText
      = some "1.0000000000000001e-29" := by decide +kernel

end NumberValue

end Passbook.Json

import Passbook.Binary.Double
/-!
# The fewest digits that read back

A magnitude of double precision stands for all numbers that round to it.  Its shortest decimal form is
the number with the fewest significant digits among them, and of several with so few digits the one
nearest to the magnitude itself.
-/

namespace Passbook

-- Powers are those of natural numbers and integers, whatever else is in scope.
attribute [local instance (2000)] instPowNat

/-- A decimal number `digits * 10 ^ exponent`. -/
structure ScaledDigits where
  digits : Nat
  exponent : Int
deriving DecidableEq, Repr

namespace Double

open Decimal (roundDiv)

/-- How `a * 10 ^ k` compares with the quotient `n / d`. -/
def compareScaled (a : Nat) (k : Int) (n d : Nat) : Ordering :=
  compare (a * 10 ^ k.toNat * d) (n * 10 ^ (-k).toNat)

/-- How far the numbers that round to the magnitude reach below and above it, in quarters of the last
bit.  Below a power of two the neighbours are twice as dense. -/
def halfGaps (x : Double) : Nat × Nat :=
  if x.mantissa = mantissaBound / 2 ∧ leastExponent < x.exponent then (1, 2) else (2, 2)

/-- Whether `a * 10 ^ k` rounds to the magnitude.  The ends of the interval do if the mantissa is
even. -/
def readsBack (x : Double) (a : Nat) (k : Int) : Bool :=
  let (below, above) := x.halfGaps
  let quarter : Double := ⟨1, x.exponent - 2⟩
  let (n, d) := quarter.toQuotient
  let atLower := compareScaled a k ((4 * x.mantissa - below) * n) d
  let atUpper := compareScaled a k ((4 * x.mantissa + above) * n) d
  if x.mantissa % 2 = 0 then atLower.isGE && atUpper.isLE
  else atLower.isGT && atUpper.isLT

/-- How many decimal digits a number has. -/
def digitCount (n : Nat) : Nat := (Nat.toDigits 10 n).length

/-- The decimal exponent of the first digit of `n / d`. -/
def leadingExponent (n d : Nat) : Int :=
  if d ≤ n then (digitCount (n / d) : Int) - 1
  else -(digitCount ((d + n - 1) / n - 1) : Int)

/-- The number of `count` significant digits that reads back, if there is one: the nearer neighbour of
the magnitude, or else the other one. -/
def withDigits? (x : Double) (count : Nat) : Option ScaledDigits :=
  let (n, d) := x.toQuotient
  let k := leadingExponent n d - count + 1
  let a := n * 10 ^ (-k).toNat
  let b := d * 10 ^ k.toNat
  let near := roundDiv .even a b
  let far := if near = a / b then a / b + 1 else a / b
  if x.readsBack near k then some ⟨near, k⟩
  else if x.readsBack far k then some ⟨far, k⟩
  else none

/-- As many digits always read back. -/
def greatestCount : Nat := 17

def shortest (x : Double) : ScaledDigits :=
  ((List.range' 1 greatestCount).findSome? x.withDigits?).getD ⟨0, 0⟩

/-! ### Layout -/

/-- The significant digits without zeros at the end, and the exponent of the first of them. -/
def significant (x : Double) : List Char × Int :=
  let form := x.shortest
  let digits := Nat.toDigits 10 form.digits
  ((digits.reverse.dropWhile (· == '0')).reverse, form.exponent + digits.length - 1)

/-- Digits around the point: those before it and those after it. -/
def aroundPoint (digits : List Char) (exponent : Int) : List Char × List Char :=
  if exponent < 0 then
    (['0'], List.replicate ((-exponent).toNat - 1) '0' ++ digits)
  else
    let whole := exponent.toNat + 1
    (digits.take whole ++ List.replicate (whole - digits.length) '0', digits.drop whole)

/-- Written out without an exponent, and without a point where there is no fraction. -/
def toPlainText (x : Double) : String :=
  if x.isZero then "0"
  else
    let (digits, exponent) := x.significant
    let (whole, fraction) := aroundPoint digits exponent
    String.ofList (if fraction = [] then whole else whole ++ '.' :: fraction)

/-- Written as a JSON number: without an exponent and with at least one decimal where the first digit
stands for `10 ^ -5` to `10 ^ 15`, else with one digit before the point and a signed exponent. -/
def toJsonText (x : Double) : String :=
  if x.isZero then "0.0"
  else
    let (digits, exponent) := x.significant
    if -5 ≤ exponent ∧ exponent ≤ 15 then
      let (whole, fraction) := aroundPoint digits exponent
      String.ofList (whole ++ '.' :: (if fraction = [] then ['0'] else fraction))
    else
      let (whole, fraction) := aroundPoint digits 0
      let sign := if exponent < 0 then '-' else '+'
      String.ofList
        (whole ++ (if fraction = [] then [] else '.' :: fraction)
          ++ 'e' :: sign :: Nat.toDigits 10 exponent.natAbs)

example : (⟨7205759403792794, -56⟩ : Double).toJsonText = "0.1" := by decide +kernel

example : (⟨1, -1074⟩ : Double).toJsonText = "5e-324" := by decide +kernel

end Double

end Passbook

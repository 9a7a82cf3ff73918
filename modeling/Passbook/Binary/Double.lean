import Passbook.Decimal.Rounding
/-!
# Binary numbers of double precision

A magnitude of double precision is `mantissa * 2 ^ exponent` with a mantissa of 53 bits.  Results are
rounded once, to the nearest magnitude and from halfway to the even mantissa; the exact quotient is
rounded, never an approximation of it.
-/

namespace Passbook

-- Powers are those of natural numbers and integers, whatever else is in scope.
attribute [local instance (2000)] instPowNat

/-- The magnitude `mantissa * 2 ^ exponent`.  Either the mantissa has all its 53 bits or the exponent is
the least one. -/
structure Double where
  mantissa : Nat
  exponent : Int
deriving DecidableEq, Repr

namespace Double

open Decimal (roundDiv)

def mantissaBound : Nat := 2 ^ (53 : Nat)

def leastExponent : Int := -1074

def greatestExponent : Int := 971

def zero : Double := ⟨0, leastExponent⟩

def isZero (x : Double) : Bool := x.mantissa == 0

/-- The quotient `n / d` divided by `2 ^ e`, as a pair of natural numbers. -/
def scaled (n d : Nat) (e : Int) : Nat × Nat :=
  (n * 2 ^ (-e).toNat, d * 2 ^ e.toNat)

/-- The exponent that gives the mantissa of `n / d` all its bits, or the least one. -/
def placeExponent (n d : Nat) : Int :=
  let estimate : Int := (Nat.log2 n : Int) - Nat.log2 d
  let (a, b) := scaled n d estimate
  max leastExponent (if b ≤ a then estimate - 52 else estimate - 53)

/-- The magnitude nearest to `n / d`, for `0 < d`, unless that lies beyond the greatest one. -/
def nearest? (n d : Nat) : Option Double :=
  let e := placeExponent n d
  let (a, b) := scaled n d e
  let m := roundDiv .even a b
  let rounded : Double := if m < mantissaBound then ⟨m, e⟩ else ⟨m / 2, e + 1⟩
  if rounded.exponent ≤ greatestExponent then some rounded else none

/-- The magnitude as a quotient of natural numbers. -/
def toQuotient (x : Double) : Nat × Nat := (x.mantissa * 2 ^ x.exponent.toNat, 2 ^ (-x.exponent).toNat)

/-- The product, rounded. -/
def mul? (x y : Double) : Option Double :=
  let (a, b) := x.toQuotient
  let (c, d) := y.toQuotient
  nearest? (a * c) (b * d)

/-- The quotient, rounded, for a divisor that is not zero. -/
def div? (x y : Double) : Option Double :=
  let (a, b) := x.toQuotient
  let (c, d) := y.toQuotient
  nearest? (a * d) (b * c)

example : nearest? 1 10 = some ⟨7205759403792794, -56⟩ := by decide

example : nearest? (2 ^ (53 : Nat) + 1) 1 = some ⟨2 ^ (52 : Nat), 1⟩ := by decide

example : nearest? (2 ^ (1024 : Nat)) 1 = none := by decide +kernel

end Double

end Passbook

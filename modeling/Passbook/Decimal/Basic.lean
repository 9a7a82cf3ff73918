/-!
# Decimal numbers

A decimal number is a sign, a mantissa below `2 ^ 96` and a scale of at most 28: it stands for
`± mantissa / 10 ^ scale`.  The scale is part of the value's written form, so `1.50` and `1.5` are two
values of the type that denote one number.
-/

namespace Passbook

-- Powers are those of natural numbers and integers, whatever else is in scope.
attribute [local instance (2000)] instPowNat

def Decimal.mantissaBound : Nat := 2 ^ (96 : Nat)

def Decimal.maxScale : Nat := 28

/-- The number `± mantissa / 10 ^ scale`. -/
structure Decimal where
  /-- Whether a minus sign stands in front. -/
  negative : Bool
  /-- The digits, read as one natural number. -/
  mantissa : Nat
  /-- How many of the digits stand after the point. -/
  scale : Nat
  mantissa_lt : mantissa < Decimal.mantissaBound
  scale_le : scale ≤ Decimal.maxScale
deriving DecidableEq

namespace Decimal

/-- The parts of a decimal, put together if they are within bounds. -/
def ofParts? (negative : Bool) (mantissa scale : Nat) : Option Decimal :=
  if h : mantissa < mantissaBound ∧ scale ≤ maxScale then
    some ⟨negative, mantissa, scale, h.1, h.2⟩
  else
    none

/-- Zero without decimals. -/
def zero : Decimal := ⟨false, 0, 0, by decide, by decide⟩

instance : Inhabited Decimal := ⟨zero⟩

/-- A 64-bit natural number without decimals. -/
def ofUInt64 (n : UInt64) : Decimal :=
  ⟨false, n.toNat, 0, Nat.lt_trans n.toNat_lt (by decide), by decide⟩

/-- Whether the number is zero, whatever its sign and scale. -/
def isZero (d : Decimal) : Bool :=
  d.mantissa == 0

/-- Whether the number is greater than zero. -/
def isPositive (d : Decimal) : Bool :=
  !d.negative && d.mantissa != 0

/-- Whether the number has no fraction: the digits after the point are all zero. -/
def isInteger (d : Decimal) : Bool :=
  d.mantissa % 10 ^ d.scale == 0

/-- The integer part, with its sign. -/
def truncate (d : Decimal) : Int :=
  let whole : Int := (d.mantissa / 10 ^ d.scale : Nat)
  if d.negative then -whole else whole

def unsignZero (d : Decimal) : Decimal :=
  if d.mantissa = 0 then { d with negative := false } else d

/-- The decimal digits of a number, padded with zeros in front up to a width. -/
def paddedDigits (width n : Nat) : List Char :=
  let digits := Nat.toDigits 10 n
  List.replicate (width - digits.length) '0' ++ digits

/-- The written form: a minus sign where there is one, at least one digit before the point, and
exactly `scale` digits after it. -/
def toText (d : Decimal) : String :=
  let whole := Nat.toDigits 10 (d.mantissa / 10 ^ d.scale)
  let fraction :=
    if d.scale = 0 then [] else '.' :: paddedDigits d.scale (d.mantissa % 10 ^ d.scale)
  String.ofList ((if d.negative then ['-'] else []) ++ whole ++ fraction)

instance : ToString Decimal := ⟨toText⟩

instance : Repr Decimal := ⟨fun d _ => d.toText⟩

example : (⟨true, 1005, 2, by decide, by decide⟩ : Decimal).toText = "-10.05" := by decide +kernel

end Decimal

end Passbook

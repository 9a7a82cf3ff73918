import Passbook.Decimal.Basic
import Passbook.Decimal.Rounding
/-!
# Arithmetic of decimal numbers

Products, reciprocals, and rounding to a number of decimals.  A result that does not fit loses the
fewest decimals that make it fit; if all its decimals are not enough, there is no result.
-/

namespace Passbook.Decimal

-- Powers are those of natural numbers and integers, whatever else is in scope.
attribute [local instance (2000)] instPowNat

/-- Round `mantissa / 10 ^ scale` to its first `scale - drop` decimals if that fits, else drop one more
decimal, `fuel` times at most.  A mantissa counts as fitting by the digits that remain, so rounding up
to the bound costs a further decimal. -/
def dropDigits (negative : Bool) (mantissa scale : Nat) : Nat → Nat → Option Decimal
  | 0, _ => none
  | fuel + 1, drop =>
    if drop ≤ scale then
      match ofParts? negative (roundDiv .even mantissa (10 ^ drop)) (scale - drop) with
      | some d => some d
      | none => dropDigits negative mantissa scale fuel (drop + 1)
    else
      none

/-- The number `± mantissa / 10 ^ scale` with as many of its decimals as fit, a half going to the even
neighbour; nothing if its whole part does not fit. -/
def fit? (negative : Bool) (mantissa scale : Nat) : Option Decimal :=
  dropDigits negative mantissa scale (scale + 1) (scale - maxScale)

/-- Below this bound two mantissas multiply within a machine word. -/
def shortMantissa : Nat := 2 ^ (32 : Nat)

/-- The largest number of decimals a product of two short mantissas may have without vanishing. -/
def shortProductScale : Nat := 47

/-- The product, if it fits.  A product with a zero is zero without decimals, and so is a product of
two short mantissas with more than 47 decimals. -/
def mul? (a b : Decimal) : Option Decimal :=
  if a.isZero || b.isZero then
    some zero
  else if a.mantissa < shortMantissa && b.mantissa < shortMantissa
      && shortProductScale < a.scale + b.scale then
    some zero
  else
    fit? (a.negative != b.negative) (a.mantissa * b.mantissa) (a.scale + b.scale)

/-- Round to at most `places` decimals, a half away from zero. -/
def roundTo (d : Decimal) (places : Nat) : Decimal :=
  if d.scale ≤ places then
    d
  else
    (ofParts? d.negative (roundDiv .away d.mantissa (10 ^ (d.scale - places))) places).getD d

/-! ### Reciprocals

Long division of one by a mantissa, up to nine digits at a time. -/

/-- A division under way: `quotient / 10 ^ scale`, with a remainder still to be divided.  The scale is
negative while the divisor's decimals have not been made up for. -/
structure Division where
  quotient : Nat
  remainder : Nat
  scale : Int
  /-- Whether a remainder was ever brought down, so that zeros may trail the quotient. -/
  broughtDown : Bool
deriving Repr

/-- The largest number of digits, up to nine, that may be appended to the quotient. -/
def Division.room (state : Division) : Nat :=
  ((List.range 10).filter fun (p : Nat) =>
    state.scale + p ≤ maxScale && state.quotient * 10 ^ p < mantissaBound).foldl max 0

/-- Append `places` digits to the quotient. -/
def Division.bringDown (divisor places : Nat) (state : Division) : Division :=
  let remainder := state.remainder * 10 ^ places
  { state with
    quotient := state.quotient * 10 ^ places + remainder / divisor
    remainder := remainder % divisor
    scale := state.scale + places }

/-- Round the quotient by the remainder, a half to the even neighbour.  A quotient that does not fit, since
digits were appended to it that the room was not counted for, is rounded one digit earlier. -/
def Division.roundOff (divisor : Nat) (state : Division) : Division :=
  let dividend := state.quotient * divisor + state.remainder
  let rounded := roundDiv .even dividend divisor
  if rounded < mantissaBound then
    { state with quotient := rounded, remainder := 0 }
  else
    { state with
      quotient := roundDiv .even dividend (divisor * 10)
      remainder := 0
      scale := state.scale - 1 }

/-- Divide on until nothing remains or no digit can be appended.  Each round but the last raises the
scale, which starts at no less than `-maxScale`, so `2 * maxScale + 2` rounds are enough. -/
def Division.run (divisor : Nat) : Nat → Division → Division
  | 0, state => state
  | fuel + 1, state =>
    if state.remainder = 0 then
      if 0 ≤ state.scale then
        state.roundOff divisor
      else
        (state.bringDown divisor (min 9 (-state.scale).toNat)).run divisor fuel
    else
      let state := { state with broughtDown := true }
      let places := state.room
      if places = 0 then
        state.roundOff divisor
      else
        (state.bringDown divisor places).run divisor fuel

/-- Drop `places` trailing zeros if there are so many decimals and all of them are zero. -/
def stripZeros (places : Nat) (parts : Nat × Nat) : Nat × Nat :=
  if places ≤ parts.2 ∧ parts.1 % 10 ^ places = 0 then
    (parts.1 / 10 ^ places, parts.2 - places)
  else
    parts

/-- Drop eight trailing zeros as often as that is possible, as long as the mantissa ends in a whole
word of zero bits; `fuel` bounds the rounds. -/
def stripEights : Nat → Nat × Nat → Nat × Nat
  | 0, parts => parts
  | fuel + 1, parts =>
    if parts.1 % 2 ^ (32 : Nat) = 0 ∧ 8 ≤ parts.2 ∧ parts.1 % 10 ^ (8 : Nat) = 0 then
      stripEights fuel (stripZeros 8 parts)
    else
      parts

/-- Drop trailing zeros in groups of eight, four, two and one, each of the last three groups once. -/
def stripTrailing (mantissa scale : Nat) : Nat × Nat :=
  stripZeros 1 (stripZeros 2 (stripZeros 4 (stripEights scale (mantissa, scale))))

/-- One divided by the number, to as many decimals as fit, if the quotient fits. -/
def reciprocal? (d : Decimal) : Option Decimal :=
  if d.mantissa = 0 then
    none
  else
    let start : Division :=
      { quotient := 1 / d.mantissa
        remainder := 1 % d.mantissa
        scale := -(d.scale : Int)
        broughtDown := false }
    let state := start.run d.mantissa (2 * maxScale + 2)
    if state.scale < 0 then
      none
    else
      let parts :=
        if state.broughtDown then stripTrailing state.quotient state.scale.toNat
        else (state.quotient, state.scale.toNat)
      ofParts? d.negative parts.1 parts.2

example : ((ofParts? false 5 1).bind reciprocal?).map toText = some "2.0" := by decide +kernel

example : ((ofParts? false 3 0).bind reciprocal?).map toText = some "0.3333333333333333333333333333" := by
  decide +kernel

end Passbook.Decimal

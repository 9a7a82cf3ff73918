import Passbook.Decimal.Basic
import Passbook.Decimal.Rounding
/-!
# Reading decimal numbers

A decimal number is written as an optional sign, digits with at most one point among them, and an
optional exponent.  Underscores may separate digits once the first digit has been seen.  The digits
after the point decide the scale.  A digit that the mantissa has no room for is an error before the
point; after the point it rounds the number, and the digits behind it no longer count.
-/

namespace Passbook.Decimal

-- Powers are those of natural numbers and integers, whatever else is in scope.
attribute [local instance (2000)] instPowNat

/-- Why a text is not a decimal number. -/
inductive ParseError where
  | empty
  | noDigits
  | secondPoint
  | leadingSeparator
  | unknownCharacter
  /-- A digit before the point does not fit. -/
  | tooManyDigits
  /-- Rounding away the fraction carries into a digit that does not fit. -/
  | roundedOutOfRange
  /-- The exponent is no number. -/
  | malformedExponent
  /-- The exponent is beyond the largest scale. -/
  | exponentTooLarge (exponent : Nat)
  /-- The number, written out, is too large. -/
  | outOfRange
deriving Repr, DecidableEq

def ParseError.message : ParseError → String
  | .empty => "Invalid decimal: empty"
  | .noDigits => "Invalid decimal: no digits found"
  | .secondPoint => "Invalid decimal: two decimal points"
  | .leadingSeparator => "Invalid decimal: must start lead with a number"
  | .unknownCharacter => "Invalid decimal: unknown character"
  | .tooManyDigits => "Invalid decimal: overflow from too many digits"
  | .roundedOutOfRange => "Invalid decimal: overflow from mantissa after rounding"
  | .malformedExponent => "Failed to parse"
  | .exponentTooLarge x => s!"Scale exceeds the maximum precision allowed: {x} > {maxScale}"
  | .outOfRange => "Number exceeds maximum value that can be represented."

/-- What is wrong with a character that is neither a digit nor in its place. -/
def ParseError.ofChar : Char → ParseError
  | '.' => .secondPoint
  | '_' => .leadingSeparator
  | _ => .unknownCharacter

def digit? (c : Char) : Option Nat :=
  if c.isDigit then some (c.toNat - '0'.toNat) else none

/-- Append a digit before the point, if the mantissa has room for it. -/
def appendDigit? (d : Decimal) (digit : Nat) : Option Decimal :=
  if h : d.mantissa * 10 + digit < mantissaBound then
    some { d with mantissa := d.mantissa * 10 + digit, mantissa_lt := h }
  else
    none

/-- Append a digit after the point, if mantissa and scale have room for it. -/
def appendFractionDigit? (d : Decimal) (digit : Nat) : Option Decimal :=
  if h : d.mantissa * 10 + digit < mantissaBound ∧ d.scale + 1 ≤ maxScale then
    some
      { d with
        mantissa := d.mantissa * 10 + digit
        scale := d.scale + 1
        mantissa_lt := h.1
        scale_le := h.2 }
  else
    none

/-- Round by the first digit that has no room: five and more count up.  Where counting up fills the
mantissa, the last decimal is rounded away as well, and there has to be one. -/
def roundBy (d : Decimal) (digit : Nat) : Except ParseError Decimal :=
  if digit < 5 then
    .ok d
  else if h : d.mantissa + 1 < mantissaBound then
    .ok { d with mantissa := d.mantissa + 1, mantissa_lt := h }
  else if d.scale = 0 then
    .error .roundedOutOfRange
  else
    .ok
      { d with
        mantissa := mantissaBound / 10 + 1
        scale := d.scale - 1
        mantissa_lt := by decide
        scale_le := Nat.le_trans (Nat.sub_le _ _) d.scale_le }

/-- Mantissas from here on no longer fit a 64-bit word with one more digit to come. -/
def wordDigits : Nat := 1844674407370954906

/-- Whether an underscore counts as the digit that rounds the number.  It does right after the last
possible decimal as long as the digits before that decimal fit a machine word; in a longer number it
is skipped there as everywhere. -/
def separatorEnds (d : Decimal) : Bool :=
  d.scale == maxScale && d.mantissa / 10 < wordDigits

/-- Digits that no longer count are still checked for being digits or separators. -/
def skipDigits : List Char → Except ParseError Unit
  | [] => .ok ()
  | c :: rest => if c.isDigit || c == '_' then skipDigits rest else .error (.ofChar c)

/-- The number read so far is complete if there was a digit in it.  A zero has no sign. -/
def finish (digitSeen : Bool) (d : Decimal) : Except ParseError Decimal :=
  if digitSeen then .ok d.unsignZero else .error .noDigits

def readFraction : List Char → Bool → Decimal → Except ParseError Decimal
  | [], digitSeen, d => finish digitSeen d
  | c :: rest, digitSeen, d =>
    match digit? c with
    | some digit =>
      match d.appendFractionDigit? digit with
      | some longer => readFraction rest true longer
      | none => do
        let rounded ← d.roundBy digit
        skipDigits rest
        finish true rounded
    | none =>
      if c = '_' ∧ digitSeen then
        if d.separatorEnds then do
          skipDigits rest
          finish true d
        else
          readFraction rest true d
      else
        .error (.ofChar c)

def readWhole : List Char → Bool → Decimal → Except ParseError Decimal
  | [], digitSeen, d => finish digitSeen d
  | c :: rest, digitSeen, d =>
    match digit? c with
    | some digit =>
      match d.appendDigit? digit with
      | some longer => readWhole rest true longer
      | none => .error .tooManyDigits
    | none =>
      if c = '.' then readFraction rest digitSeen d
      else if c = '_' ∧ digitSeen then readWhole rest true d
      else .error (.ofChar c)

/-- Read a number without an exponent. -/
def parsePlain (cs : List Char) : Except ParseError Decimal :=
  match cs with
  | [] => .error .empty
  | '-' :: rest => readWhole rest false { zero with negative := true }
  | '+' :: rest => readWhole rest false zero
  | cs => readWhole cs false zero

/-- Read an exponent without its minus sign: a 32-bit number with an optional plus sign. -/
def readExponent (cs : List Char) : Except ParseError Nat :=
  let digits := if cs.head? = some '+' then cs.tail else cs
  let value := digits.foldl (fun n c => n * 10 + (c.toNat - '0'.toNat)) 0
  if digits ≠ [] ∧ digits.all Char.isDigit ∧ value < 2 ^ (32 : Nat) then .ok value
  else .error .malformedExponent

/-- Move the point `shift` places to the left.  Digits that leave the largest scale are rounded off,
a half away from zero. -/
def shiftLeft (d : Decimal) (shift : Nat) : Except ParseError Decimal :=
  if maxScale < shift then
    .error (.exponentTooLarge shift)
  else
    let dropped := d.scale + shift - maxScale
    match ofParts? d.negative (roundDiv .away d.mantissa (10 ^ dropped)) (d.scale + shift - dropped) with
    | some shifted => .ok shifted
    | none => .error .outOfRange

/-- Move the point `shift` places to the right: decimals become whole digits first, then zeros are
appended. -/
def shiftRight (d : Decimal) (shift : Nat) : Except ParseError Decimal :=
  if shift ≤ d.scale then
    .ok { d with scale := d.scale - shift, scale_le := Nat.le_trans (Nat.sub_le _ _) d.scale_le }
  else if maxScale < shift then
    .error (.exponentTooLarge shift)
  else
    match ofParts? d.negative (d.mantissa * 10 ^ (shift - d.scale)) 0 with
    | some shifted => .ok shifted
    | none => .error .outOfRange

def isExponentMark (c : Char) : Bool :=
  c == 'e' || c == 'E'

/-- Read a number with an exponent.  The text is divided at its first exponent mark. -/
def parseScientific (cs : List Char) : Except ParseError Decimal := do
  let base ← parsePlain (cs.takeWhile (!isExponentMark ·))
  match (cs.dropWhile (!isExponentMark ·)).tail with
  | '-' :: exponent => base.shiftLeft (← readExponent exponent)
  | exponent => base.shiftRight (← readExponent exponent)

/-- Read a decimal number.  A text is first taken as a number without an exponent; only where that
fails and an exponent mark occurs is it taken as one with. -/
def parse (s : String) : Except ParseError Decimal :=
  let cs := s.toList
  match parsePlain cs with
  | .ok d => .ok d
  | .error e => if cs.any isExponentMark then parseScientific cs else .error e

example : (parse "-1_0.50").toOption.map toText = some "-10.50" := by decide +kernel

example : (parse "15e-1").toOption.map toText = some "1.5" := by decide +kernel

example : (parse "79228162514264337593543950335.5").toOption = none := by decide +kernel

end Passbook.Decimal

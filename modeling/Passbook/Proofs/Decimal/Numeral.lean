import Passbook.Decimal.Parse
import Passbook.Proofs.Decimal.Value
/-!
# Numerals

What number is written in a text: a sign, digits with a point among them, and an exponent.  The number is said
without regard to how a text is read, so that it has as many digits as are written.
-/

namespace Passbook.Decimal

-- Powers are those of natural numbers and integers, whatever else is in scope.
attribute [local instance (2000)] instPowNat

/-! ### Digits -/

/-- A character that may stand in a row of digits: a digit or a separator. -/
def isRow (c : Char) : Bool := c.isDigit || c == '_'

def digitCount (row : List Char) : ℕ := (row.filterMap digit?).length

/-- A number with the digits of a row appended to it. -/
def appendRow (n : ℕ) (row : List Char) : ℕ := (row.filterMap digit?).foldl (fun n digit => n * 10 + digit) n

section Rows

variable {c : Char} {digit : ℕ} {row : List Char}

theorem digitCount_of_digit (isDigit : digit? c = some digit) :
    digitCount (c :: row) = digitCount row + 1 := by
  simp [digitCount, isDigit]

theorem appendRow_of_digit (isDigit : digit? c = some digit) (n : ℕ) :
    appendRow n (c :: row) = appendRow (n * 10 + digit) row := by
  simp [appendRow, isDigit]

theorem digitCount_of_separator (noDigit : digit? c = none) : digitCount (c :: row) = digitCount row := by
  simp [digitCount, noDigit]

theorem appendRow_of_separator (noDigit : digit? c = none) (n : ℕ) :
    appendRow n (c :: row) = appendRow n row := by
  simp [appendRow, noDigit]

theorem digit_le (isDigit : digit? c = some digit) : digit ≤ 9 := by
  unfold digit? at isDigit
  split at isDigit
  · rename_i small
    cases isDigit
    simp only [Char.isDigit, Bool.and_eq_true, decide_eq_true_eq] at small
    have bound : c.toNat ≤ 57 := small.2
    have zero : '0'.toNat = 48 := rfl
    omega
  · cases isDigit

/-- A character of a row that is no digit is a separator. -/
theorem eq_separator (plain : isRow c = true) (noDigit : digit? c = none) : c = '_' := by
  unfold isRow at plain
  unfold digit? at noDigit
  split at noDigit
  · cases noDigit
  · rename_i other
    simpa [other] using plain

/-- What a number has in front of appended digits is moved up by as many places. -/
theorem appendRow_eq (n : ℕ) (row : List Char) :
    appendRow n row = n * 10 ^ digitCount row + appendRow 0 row := by
  induction row generalizing n with
  | nil => simp [appendRow, digitCount]
  | cons c row inductionHypothesis =>
      cases isDigit : digit? c with
      | none =>
          rw [appendRow_of_separator isDigit, appendRow_of_separator isDigit, digitCount_of_separator isDigit]
          exact inductionHypothesis n
      | some digit =>
          rw [appendRow_of_digit isDigit, appendRow_of_digit isDigit, digitCount_of_digit isDigit,
            inductionHypothesis (n * 10 + digit), inductionHypothesis (0 * 10 + digit)]
          ring

/-- The digits of a row make less than one of the place before them. -/
theorem appendRow_lt (row : List Char) : appendRow 0 row < 10 ^ digitCount row := by
  induction row with
  | nil => decide
  | cons c row inductionHypothesis =>
      cases isDigit : digit? c with
      | none =>
          rw [appendRow_of_separator isDigit, digitCount_of_separator isDigit]
          exact inductionHypothesis
      | some digit =>
          rw [appendRow_of_digit isDigit, digitCount_of_digit isDigit, appendRow_eq, pow_succ]
          have small := digit_le isDigit
          have places : (0 * 10 + digit) * 10 ^ digitCount row ≤ 9 * 10 ^ digitCount row :=
            Nat.mul_le_mul_right _ (by omega)
          omega

end Rows

/-- What is behind the last place of a mantissa, as a part of that place. -/
def restOf (row : List Char) : ℚ := appendRow 0 row / 10 ^ digitCount row

theorem restOf_nonneg (row : List Char) : 0 ≤ restOf row := by
  unfold restOf
  positivity

theorem restOf_lt_one (row : List Char) : restOf row < 1 := by
  have less : (appendRow 0 row : ℚ) < 10 ^ digitCount row := by exact_mod_cast appendRow_lt row
  exact (div_lt_one (by positivity)).mpr less

/-- A mantissa and the digits behind it, the last place of the mantissa being the unit. -/
theorem appendRow_div (mantissa scale : ℕ) (row : List Char) :
    (appendRow mantissa row : ℚ) / 10 ^ (scale + digitCount row) = (mantissa + restOf row) / 10 ^ scale := by
  rw [appendRow_eq, restOf]
  push_cast
  rw [pow_add]
  field_simp

/-- A rest is at least its first digit. -/
theorem digit_le_restOf {c : Char} {digit : ℕ} {row : List Char} (isDigit : digit? c = some digit) :
    (digit : ℚ) ≤ 10 * restOf (c :: row) := by
  rw [restOf, appendRow_of_digit isDigit, digitCount_of_digit isDigit, appendRow_eq, pow_succ, mul_div_assoc',
    le_div_iff₀ (by positivity)]
  push_cast
  have rest : (0 : ℚ) ≤ appendRow 0 row := Nat.cast_nonneg _
  nlinarith

/-! ### Numerals -/

/-- A sign that may be written in front of a number. -/
inductive Sign where
  | none
  | plus
  | minus
deriving DecidableEq

def Sign.text : Sign → List Char
  | none => []
  | plus => ['+']
  | minus => ['-']

/-- The part of a number behind the point, with the point, if there is one. -/
def pointed : Option (List Char) → List Char
  | none => []
  | some row => '.' :: row

/-- An exponent as it is written: a mark, an optional minus sign, an optional plus sign, and digits. -/
structure Exponent where
  mark : Char
  minus : Bool
  plus : Bool
  digits : List Char
  isMark : isExponentMark mark = true
  plain : ∀ c ∈ digits, c.isDigit = true

namespace Exponent

/-- How an exponent is written behind its mark. -/
def tail (exponent : Exponent) : List Char :=
  (if exponent.minus then ['-'] else []) ++ ((if exponent.plus then ['+'] else []) ++ exponent.digits)

/-- By how many places an exponent moves the point. -/
def places (exponent : Exponent) : ℕ := appendRow 0 exponent.digits

/-- Move the point of a number. -/
def shift (exponent : Exponent) (number : ℚ) : ℚ :=
  if exponent.minus then number / 10 ^ exponent.places else number * 10 ^ exponent.places

end Exponent

/-- A number as it is written: a sign, digits with a point among them, and an exponent.  Sign, point and
exponent may be missing, and separators may stand among the digits. -/
structure Numeral where
  sign : Sign
  whole : List Char
  fraction : Option (List Char)
  exponent : Option Exponent
  plain : ∀ c ∈ whole, isRow c = true
  plain' : ∀ c ∈ fraction.getD [], isRow c = true

namespace Numeral

/-- How the number is written in front of its exponent. -/
def front (numeral : Numeral) : List Char := numeral.sign.text ++ (numeral.whole ++ pointed numeral.fraction)

def text (numeral : Numeral) : List Char :=
  numeral.front ++
    match numeral.exponent with
    | none => []
    | some exponent => exponent.mark :: exponent.tail

/-- The number that is written in front of the exponent. -/
def base (numeral : Numeral) : ℚ :=
  let decimals := numeral.fraction.getD []
  signed (numeral.sign = .minus) (appendRow 0 (numeral.whole ++ decimals) / 10 ^ digitCount decimals)

def value (numeral : Numeral) : ℚ :=
  match numeral.exponent with
  | none => numeral.base
  | some exponent => exponent.shift numeral.base

end Numeral

end Passbook.Decimal

import Passbook.Currency.Parse
import Passbook.Decimal.Arithmetic
import Passbook.Decimal.Parse
/-!
# Arithmetic on money

Sums, differences and negation within the range of the type, and the way from decimal major units to
whole minor units.  Nothing here rounds: what does not come out as a whole number of minor units is
refused.
-/

namespace Passbook.Money

-- Powers are those of natural numbers and integers, whatever else is in scope.
attribute [local instance (2000)] instPowNat

/-- A number of minor units as the result of a computation. -/
def ofResult (amount : Int) (currency : Currency) : Except LedgerError Money :=
  match ofMinor? amount currency with
  | some m => .ok m
  | none => .error (.invalid "amount overflow")

def ensureSameCurrency (a b : Money) : Except LedgerError Unit :=
  if a.currency = b.currency then .ok ()
  else .error (.invalidCurrency s!"currency mismatch: {a.currency} vs {b.currency}")

def add (a b : Money) : Except LedgerError Money := do
  a.ensureSameCurrency b
  ofResult (a.amount + b.amount) a.currency

def sub (a b : Money) : Except LedgerError Money := do
  a.ensureSameCurrency b
  ofResult (a.amount - b.amount) a.currency

/-- The amount with the other sign. -/
def neg (a : Money) : Except LedgerError Money :=
  ofResult (-a.amount) a.currency

/-- A major unit has few enough minor units. -/
theorem minorUnits_lt (currency : Currency) : 10 ^ currency.minorUnits < Decimal.mantissaBound := by
  cases currency <;> decide

/-- One major unit in minor units, as a decimal. -/
def minorFactor (currency : Currency) : Decimal where
  negative := false
  mantissa := 10 ^ currency.minorUnits
  scale := 0
  mantissa_lt := minorUnits_lt currency
  scale_le := Nat.zero_le _

/-- A decimal number of major units as money.  It must come out as a whole number of minor units that
is in range. -/
def ofMajor (value : Decimal) (currency : Currency) : Except LedgerError Money :=
  let outOfRange := LedgerError.invalid s!"amount {value} is out of range"
  match value.mul? (minorFactor currency) with
  | none => .error outOfRange
  | some scaled =>
    if scaled.isInteger then
      match ofMinor? scaled.truncate currency with
      | some m => .ok m
      | none => .error outOfRange
    else
      .error
        (.invalid
          s!"amount {value} has more than {currency.minorUnits} decimal places for {currency}")

/-- The error for a text that is no amount; it shows the text as it was given. -/
def notAnAmount (text : String) : LedgerError := .invalid s!"'{text}' is not a valid amount"

/-- Read a decimal number of major units, blanks allowed around it. -/
def parseDecimal (text : String) : Except LedgerError Decimal :=
  match Decimal.parse (Text.trim text) with
  | .ok d => .ok d
  | .error _ => .error (notAnAmount text)

/-- Read an amount of major units as money. -/
def parseMajor (text : String) (currency : Currency) : Except LedgerError Money := do
  ofMajor (← parseDecimal text) currency

example : (parseMajor " 1.500 " .usd).toOption.map amount = some 150 := by decide +kernel

example : (parseMajor "0.001" .usd).toOption = none := by decide +kernel

end Passbook.Money

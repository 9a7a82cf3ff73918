import Passbook.Currency.Basic
import Passbook.Decimal.Basic
/-!
# Money

An amount of money is a whole number of minor units of a currency, within the range of a signed 64-bit
integer.  Amounts are ordered within one currency only.
-/

namespace Passbook

-- Powers are those of natural numbers and integers, whatever else is in scope.
attribute [local instance (2000)] instPowNat

/-- The least number of minor units. -/
def Money.least : Int := -2 ^ (63 : Nat)

/-- The greatest number of minor units. -/
def Money.greatest : Int := 2 ^ (63 : Nat) - 1

/-- An amount of money in minor units. -/
structure Money where
  amount : Int
  currency : Currency
  least_le : Money.least ≤ amount
  le_greatest : amount ≤ Money.greatest
deriving DecidableEq

namespace Money

/-- A number of minor units as money, if it is in range. -/
def ofMinor? (amount : Int) (currency : Currency) : Option Money :=
  if h : least ≤ amount ∧ amount ≤ greatest then some ⟨amount, currency, h.1, h.2⟩ else none

def zero (currency : Currency) : Money := ⟨0, currency, by decide, by decide⟩

/-- The amount in major units, with as many decimals as the currency has. -/
def toMajor (m : Money) : Decimal where
  negative := m.amount < 0
  mantissa := m.amount.natAbs
  scale := m.currency.minorUnits
  mantissa_lt := by
    have h := m.least_le
    have h' := m.le_greatest
    simp only [least, greatest] at h h'
    simp only [Decimal.mantissaBound]
    omega
  scale_le := by cases m.currency <;> decide

/-- The written form: major units and currency code. -/
def toText (m : Money) : String := s!"{m.toMajor} {m.currency}"

instance : ToString Money := ⟨toText⟩

instance : Repr Money := ⟨fun m _ => m.toText⟩

def isZero (m : Money) : Bool := m.amount == 0

def isPositive (m : Money) : Bool := 0 < m.amount

def isNegative (m : Money) : Bool := m.amount < 0

/-- How two amounts of one currency compare; amounts of different currencies do not. -/
def compare? (a b : Money) : Option Ordering :=
  if a.currency = b.currency then some (compare a.amount b.amount) else none

end Money

end Passbook

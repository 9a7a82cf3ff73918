import Passbook.Entry.Basic
/-!
# Movements as requested

What a caller asks for in a deposit or a withdrawal: an amount, perhaps without naming its currency, the
channel, and the external target.
-/

namespace Passbook

/-- The amount of a movement as the caller stated it. -/
inductive RequestedAmount where
  /-- An amount in a currency that was named, which need not be the account's. -/
  | exact (money : Money)
  /-- Major units of whatever currency the account holds. -/
  | accountCurrency (value : Decimal)
deriving DecidableEq, Repr

namespace RequestedAmount

/-- Read an amount of major units. -/
def parseMajor (text : String) (currency : Option Currency) : Except LedgerError RequestedAmount :=
  match currency with
  | some currency => exact <$> Money.parseMajor text currency
  | none => accountCurrency <$> Money.parseDecimal text

def isPositive : RequestedAmount → Bool
  | exact money => money.isPositive
  | accountCurrency value => value.isPositive

/-- The amount as money, once the account's currency is known. -/
def resolve (amount : RequestedAmount) (currency : Currency) : Except LedgerError Money :=
  match amount with
  | exact money => .ok money
  | accountCurrency value => Money.ofMajor value currency

def toText : RequestedAmount → String
  | exact money => money.toText
  | accountCurrency value => s!"{value} (account currency)"

instance : ToString RequestedAmount := ⟨toText⟩

end RequestedAmount

/-- A deposit or withdrawal as requested. -/
structure MovementRequest where
  account : AccountId
  amount : RequestedAmount
  source : MoneySource
  /-- The raw target.  Only its masked form is kept. -/
  target : Option ExternalTarget
deriving DecidableEq, Repr

namespace MovementRequest

/-- A movement within the ledger. -/
def internal (account : AccountId) (amount : RequestedAmount) : MovementRequest :=
  ⟨account, amount, .internal, none⟩

/-- A movement to or from an external target, over the channel that leads there. -/
def external (account : AccountId) (amount : RequestedAmount) (target : ExternalTarget) :
    MovementRequest :=
  ⟨account, amount, target.source, some target⟩

end MovementRequest

end Passbook

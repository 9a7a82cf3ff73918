import Passbook.Account.Basic
import Passbook.Entry.Target
/-!
# Ledger entries

One entry for every change of a balance: by how much it changed, what it came to, through which channel,
and from which other currency, if any.  Entries are never changed.
-/

namespace Passbook

/-- What a converted amount was converted from, and at which rate. -/
structure ConversionInfo where
  stated : Money
  rate : Decimal
deriving DecidableEq, Repr

/-- Record a conversion.  The rate has to be greater than zero. -/
def ConversionInfo.record (stated : Money) (rate : Decimal) : Except LedgerError ConversionInfo :=
  if rate.isPositive then .ok ⟨stated, rate⟩
  else .error (.conversionFailure s!"non-positive rate {rate}")

/-- The record of one change of a balance. -/
structure LedgerEntry where
  id : TransactionId
  account : AccountId
  user : UserId
  /-- By how much the balance changed: more than zero for a credit, less for a debit. -/
  amount : Money
  /-- The balance after the change. -/
  balance : Money
  source : MoneySource
  conversion : Option ConversionInfo
  maskedTarget : Option String
  createdAt : Timestamp
deriving DecidableEq, Repr

namespace LedgerEntry

def isCredit (entry : LedgerEntry) : Bool := entry.amount.isPositive

/-- Record the movement that led to the balance of an account. -/
def record (id : TransactionId) (account : Account) (user : UserId) (amount : Money)
    (source : MoneySource) (conversion : Option ConversionInfo) (maskedTarget : Option String)
    (now : Timestamp) : Except LedgerError LedgerEntry :=
  if amount.currency ≠ account.currency then
    .error
      (.invalidCurrency s!"entry amount in {amount.currency} for a {account.currency} account")
  else if amount.isZero then
    .error (.invalid "ledger entries must move funds")
  else
    .ok
      { id := id
        account := account.id
        user := user
        amount := amount
        balance := account.balance
        source := source
        conversion := conversion
        maskedTarget := maskedTarget
        createdAt := now }

end LedgerEntry

end Passbook

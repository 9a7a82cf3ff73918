import Passbook.Identifier
import Passbook.Money.Arithmetic
import Passbook.Time.Timestamp
/-!
# Accounts

An account belongs to one user and holds one currency.  Its balance moves by credits and debits only and
is never taken below zero; an account that holds nothing can be closed.
-/

namespace Passbook

structure Account where
  id : AccountId
  owner : UserId
  balance : Money
  createdAt : Timestamp
  updatedAt : Timestamp
  /-- When the account was closed, if it was. -/
  deletedAt : Option Timestamp
deriving DecidableEq, Repr

namespace Account

/-- A new account that holds nothing. -/
def opened (id : AccountId) (owner : UserId) (currency : Currency) (now : Timestamp) : Account where
  id := id
  owner := owner
  balance := Money.zero currency
  createdAt := now
  updatedAt := now
  deletedAt := none

def currency (account : Account) : Currency := account.balance.currency

def isDeleted (account : Account) : Bool := account.deletedAt.isSome

def isOwnedBy (account : Account) (user : UserId) : Bool := account.owner == user

/-- Only the owner may act on the account. -/
def ensureOwnedBy (account : Account) (user : UserId) : Except LedgerError Unit :=
  if account.isOwnedBy user then .ok () else .error .unauthorized

/-- Only more than nothing moves, and in the account's currency. -/
def ensureMovement (account : Account) (amount : Money) : Except LedgerError Unit :=
  if amount.currency ≠ account.currency then
    .error
      (.invalidCurrency
        s!"account {account.id} holds {account.currency}, got {amount.currency}")
  else if !amount.isPositive then
    .error (.invalid "amount must be positive")
  else
    .ok ()

def withBalance (account : Account) (balance : Money) (now : Timestamp) : Account :=
  { account with balance := balance, updatedAt := now }

/-- The account after an amount was added. -/
def credit (account : Account) (amount : Money) (now : Timestamp) : Except LedgerError Account := do
  account.ensureMovement amount
  return account.withBalance (← account.balance.add amount) now

/-- The account after an amount was taken away; it has to hold that much. -/
def debit (account : Account) (amount : Money) (now : Timestamp) : Except LedgerError Account := do
  account.ensureMovement amount
  let balance ← account.balance.sub amount
  if balance.isNegative then
    throw (.insufficientFunds account.balance amount)
  return account.withBalance balance now

/-- The account after it was closed.  Only an account that is open and holds nothing can be. -/
def close (account : Account) (now : Timestamp) : Except LedgerError Account :=
  if account.isDeleted then
    .error (.notFound s!"account {account.id}")
  else if !account.balance.isZero then
    .error (.invalid s!"account {account.id} still holds {account.balance}")
  else
    .ok { account with deletedAt := some now, updatedAt := now }

end Account

end Passbook

import Passbook.Movement
import Passbook.Session.Simulation
/-!
# Operations

What users can do: open and close accounts, move funds, and look at what is theirs.  Every operation is
checked as far as that is possible without the store and then runs as one unit of work.
-/

namespace Passbook.Service

open Session (Work)
open Store (missingAccount missingEntry)

/-- Whether a movement adds to the balance or takes from it. -/
inductive Direction where
  | credit
  | debit
deriving DecidableEq, Repr

inductive Operation where
  /-- Open an account, in the default currency if none is named. -/
  | openAccount (currency : Option Currency)
  | move (direction : Direction) (request : MovementRequest)
  | account (id : AccountId)
  | balance (id : AccountId)
  | history (id : AccountId)
  | transaction (id : TransactionId)
  | closeAccount (id : AccountId)
deriving DecidableEq

inductive Answer where
  | account (account : Account)
  | balance (money : Money)
  | entry (entry : LedgerEntry)
  | history (entries : List LedgerEntry)
  | closed
deriving DecidableEq

variable {ν : Type}

/-! ### Looking -/

/-- Others' accounts are as if they were absent. -/
def requireOwned (id : AccountId) (user : UserId) (account : Account) : Except LedgerError Account :=
  if account.isOwnedBy user then .ok account else .error (.notFound s!"account {id}")

/-- The account of a user, unless it is closed. -/
def accountWork (user : UserId) (id : AccountId) : Work ν Account := do
  let account ← Work.ask (.account id)
  Work.ofExcept (requireOwned id user account)

/-- The newest entries of an account of a user, closed or not. -/
def historyWork (user : UserId) (id : AccountId) : Work ν (List LedgerEntry) := do
  let account ← Work.ask (.accountIncludingClosed id)
  let _ ← Work.ofExcept (requireOwned id user account)
  Work.ask (.history user id)

/-- An entry that was recorded for a user. -/
def transactionWork (user : UserId) (id : TransactionId) : Work ν LedgerEntry := do
  let entry ← Work.ask (.entry id)
  if entry.user = user then return entry
  else Work.fail (.notFound s!"transaction {id}")

/-! ### Opening and closing -/

def openWork (user : UserId) (currency : Currency) : Work ν Account := do
  let id ← Work.freshId
  let account := Account.opened ⟨id⟩ user currency (← Work.clock)
  Work.ask (.createAccount account)
  return account

def closeWork (user : UserId) (id : AccountId) : Work ν Unit := do
  let account ← Work.ask (.accountForUpdate id)
  Work.ofExcept (account.ensureOwnedBy user)
  let _ ← Work.ofExcept (account.close (← Work.clock))
  Work.ask (.deleteAccount id)

/-! ### Moving funds -/

/-- The error for an amount that comes to nothing, or less, in the account's currency. -/
def convertsToNothing (amount converted : Money) : LedgerError :=
  .invalid s!"{amount} converts to {converted}"

/-- The amount in the account's currency, and how it was converted if it had to be. -/
def convertWork (amount : Money) (target : Currency) : Work ν (Money × Option ConversionInfo) :=
  if amount.currency = target then
    pure (amount, none)
  else do
    let quote ← Work.quote amount target
    if quote.converted.isPositive then
      return (quote.converted, some (← Work.ofExcept (ConversionInfo.record amount quote.rate)))
    else
      Work.fail (convertsToNothing amount quote.converted)

/-- The account after a movement, and the amount of its entry. -/
def applyMovement (direction : Direction) (account : Account) (amount : Money) (now : Timestamp) :
    Except LedgerError (Account × Money) :=
  match direction with
  | .credit => do return (← account.credit amount now, amount)
  | .debit => do
    let moved ← account.debit amount now
    return (moved, ← amount.neg)

def moveWork (user : UserId) (direction : Direction) (request : MovementRequest) :
    Work ν LedgerEntry := do
  let account ← Work.ask (.accountForUpdate request.account)
  Work.ofExcept (account.ensureOwnedBy user)
  let amount ← Work.ofExcept (request.amount.resolve account.currency)
  let (applied, conversion) ← convertWork amount account.currency
  let now ← Work.clock
  let (moved, signed) ← Work.ofExcept (applyMovement direction account applied now)
  Work.ask (.updateAccount moved)
  let id ← Work.freshId
  let entry ← Work.ofExcept
    (LedgerEntry.record ⟨id⟩ moved user signed request.source conversion
      (request.target.map (·.masked)) now)
  Work.ask (.createEntry entry)
  return entry

/-! ### All operations -/

namespace Operation

/-- What is checked before the store is asked: that more than nothing is to be moved, and over a channel
that leads to the target. -/
def check : Operation → Except LedgerError Unit
  | move _ request =>
    if request.amount.isPositive then request.source.ensureCompatible request.target
    else .error (.invalid "amount must be positive")
  | _ => .ok ()

def work (defaultCurrency : Currency) (user : UserId) : Operation → Work ν Answer
  | openAccount currency => Answer.account <$> openWork user (currency.getD defaultCurrency)
  | move direction request => Answer.entry <$> moveWork user direction request
  | account id => Answer.account <$> accountWork user id
  | balance id => (fun account => Answer.balance account.balance) <$> accountWork user id
  | history id => Answer.history <$> historyWork user id
  | transaction id => Answer.entry <$> transactionWork user id
  | closeAccount id => (fun _ => Answer.closed) <$> closeWork user id

/-- No operation takes more steps. -/
def bound : Nat := 48

end Operation

end Passbook.Service

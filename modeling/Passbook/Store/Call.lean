import Passbook.Error.Classify
import Passbook.Store.Tables
/-!
# Store calls

What a unit of work can ask of the store, and the rules that decide the answers.  The rules are stated
for the rows that a session sees; where the rows come from is left to the session.
-/

namespace Passbook.Store

inductive Call where
  /-- An account that is not closed. -/
  | account (id : AccountId)
  /-- An account, closed or not. -/
  | accountIncludingClosed (id : AccountId)
  /-- An account that is not closed, whose row is locked until the session ends. -/
  | accountForUpdate (id : AccountId)
  | createAccount (account : Account)
  /-- Write balance and time of change of an account that is not closed. -/
  | updateAccount (account : Account)
  /-- Close an account; row and entries stay. -/
  | deleteAccount (id : AccountId)
  | createEntry (entry : LedgerEntry)
  | entry (id : TransactionId)
  /-- The newest entries of an account that were recorded for a user. -/
  | history (user : UserId) (account : AccountId)
deriving DecidableEq, Repr

/-- What a call answers unless it fails. -/
abbrev Call.Answer : Call → Type
  | account _ | accountIncludingClosed _ | accountForUpdate _ => Account
  | createAccount _ | updateAccount _ | deleteAccount _ | createEntry _ => Unit
  | entry _ => LedgerEntry
  | history _ _ => List LedgerEntry

/-! ### Rules -/

def missingAccount (id : AccountId) : LedgerError := .ofStore (.recordNotFound s!"account {id}")

def missingEntry (id : TransactionId) : LedgerError := .ofStore (.recordNotFound s!"transaction {id}")

def requireAccount (id : AccountId) (row : Option Account) : Except LedgerError Account :=
  match row with
  | some account => .ok account
  | none => .error (missingAccount id)

/-- A row has to exist and must not be closed. -/
def requireLive (id : AccountId) (row : Option Account) : Except LedgerError Account :=
  requireAccount id (row.filter (!·.isDeleted))

def requireEntry (id : TransactionId) (row : Option LedgerEntry) : Except LedgerError LedgerEntry :=
  match row with
  | some entry => .ok entry
  | none => .error (missingEntry id)

/-- The row of a new account: its identifier must not be taken. -/
def newRow (account : Account) (row : Option Account) : Except LedgerError Account :=
  match row with
  | some _ => .error (.ofStore (.duplicateKey s!"account {account.id}"))
  | none => .ok account

/-- The row of an account after an update.  Owner, currency and the time of opening stay what they
are. -/
def updatedRow (account : Account) (row : Option Account) : Except LedgerError Account := do
  let current ← requireLive account.id row
  if current.currency ≠ account.currency ∨ current.owner ≠ account.owner then
    throw (.ofStore (.constraintViolated s!"account {account.id}: owner and currency are immutable"))
  return {
    id := account.id
    owner := current.owner
    balance := account.balance
    createdAt := current.createdAt
    updatedAt := account.updatedAt
    deletedAt := none }

def closedRow (id : AccountId) (now : Timestamp) (row : Option Account) :
    Except LedgerError Account := do
  let current ← requireLive id row
  return { current with id := id, updatedAt := now, deletedAt := some now }

def injected (place : String) : LedgerError := .ofStore (.injectedFault place)

/-- The account of a new entry has to exist, closed or not. -/
def requireReference (entry : LedgerEntry) (row : Option Account) : Except LedgerError Unit :=
  match row with
  | some _ => .ok ()
  | none => .error (.ofStore (.missingReference s!"account {entry.account}"))

/-- The identifier of a new entry must not be taken. -/
def requireFresh (entry : LedgerEntry) (row : Option LedgerEntry) : Except LedgerError Unit :=
  match row with
  | some _ => .error (.ofStore (.duplicateKey s!"transaction {entry.id}"))
  | none => .ok ()

end Passbook.Store

import Passbook.Rates
import Passbook.Store.Call
/-!
# Work and tasks

A unit of work is a program of store calls and of questions to the surroundings: the time, a fresh
identifier, a conversion, the passing of time.  Carried out, a store call is a sequence of accesses, each
of which is one step among those of other sessions.  A task is a program of accesses.
-/

namespace Passbook.Session

open Store (Call)

/-- A unit of work that makes notes of type `ν` on its way and comes to a result of type `α`. -/
inductive Work (ν α : Type) where
  | done (result : Except LedgerError α)
  /-- The work breaks down without a result. -/
  | panic (text : String)
  | call (call : Call) (next : Except LedgerError call.Answer → Work ν α)
  | now (next : Timestamp → Work ν α)
  | newId (next : Uuid → Work ν α)
  | convert (amount : Money) (target : Currency) (next : Except ConversionError Quote → Work ν α)
  | sleep (millis : Nat) (next : Work ν α)
  | note (entry : ν) (next : Work ν α)

/-- A program of accesses. -/
inductive Task (ν α : Type) where
  | done (result : Except LedgerError α)
  | panic (text : String)
  /-- Lock the row of an account until the session ends. -/
  | lockRow (id : AccountId) (next : Task ν α)
  | readAccount (id : AccountId) (next : Option Account → Task ν α)
  | readEntry (id : TransactionId) (next : Option LedgerEntry → Task ν α)
  | readHistory (user : UserId) (account : AccountId) (next : List LedgerEntry → Task ν α)
  /-- See whether entries are to fail, and disarm the fault. -/
  | takeInsertFault (next : Bool → Task ν α)
  | putAccount (account : Account) (next : Task ν α)
  | addEntry (entry : LedgerEntry) (next : Task ν α)
  | now (next : Timestamp → Task ν α)
  | newId (next : Uuid → Task ν α)
  | convert (amount : Money) (target : Currency) (next : Except ConversionError Quote → Task ν α)
  | sleep (millis : Nat) (next : Task ν α)
  | note (entry : ν) (next : Task ν α)

/-! ### Work as a monad -/

namespace Work

variable {ν α β : Type}

/-- Go on with a result.  An error ends the work. -/
def bind : Work ν α → (α → Work ν β) → Work ν β
  | done (.ok a), f => f a
  | done (.error e), _ => done (.error e)
  | panic text, _ => panic text
  | call c next, f => call c fun answer => (next answer).bind f
  | now next, f => now fun t => (next t).bind f
  | newId next, f => newId fun id => (next id).bind f
  | convert amount target next, f => convert amount target fun answer => (next answer).bind f
  | sleep millis next, f => sleep millis (next.bind f)
  | note entry next, f => note entry (next.bind f)

instance : Monad (Work ν) where
  pure a := done (.ok a)
  bind := bind

/-- A result that may be an error. -/
def ofExcept (result : Except LedgerError α) : Work ν α := done result

def fail (e : LedgerError) : Work ν α := done (.error e)

/-- The answer of a store call.  An error ends the work. -/
def ask (c : Call) : Work ν c.Answer := call c done

def clock : Work ν Timestamp := now fun t => pure t

/-- A fresh identifier. -/
def freshId : Work ν Uuid := newId fun id => pure id

/-- The quote for an amount.  An error of the converter ends the work. -/
def quote (amount : Money) (target : Currency) : Work ν Quote :=
  convert amount target fun answer => done (answer.mapError LedgerError.ofConversion)

end Work

/-! ### Work as a task -/

variable {ν α : Type}

/-- The accesses of a store call, and those behind it. -/
def perform : (call : Call) → (Except LedgerError call.Answer → Task ν α) → Task ν α
  | .account id, next => .readAccount id fun row => next (Store.requireLive id row)
  | .accountIncludingClosed id, next => .readAccount id fun row => next (Store.requireAccount id row)
  | .accountForUpdate id, next =>
    .lockRow id (.readAccount id fun row => next (Store.requireLive id row))
  | .createAccount account, next =>
    .lockRow account.id (.readAccount account.id fun row => write (Store.newRow account row) next)
  | .updateAccount account, next =>
    .lockRow account.id (.readAccount account.id fun row => write (Store.updatedRow account row) next)
  | .deleteAccount id, next =>
    .lockRow id (.readAccount id fun row =>
      match Store.requireLive id row with
      | .error e => next (.error e)
      | .ok _ => .now fun t => write (Store.closedRow id t row) next)
  | .createEntry entry, next =>
    .takeInsertFault fun fault =>
      if fault then next (.error (Store.injected "transaction insert"))
      else
        .readAccount entry.account fun row =>
          match Store.requireReference entry row with
          | .error e => next (.error e)
          | .ok () =>
            .readEntry entry.id fun row =>
              match Store.requireFresh entry row with
              | .error e => next (.error e)
              | .ok () => .addEntry entry (next (.ok ()))
  | .entry id, next => .readEntry id fun row => next (Store.requireEntry id row)
  | .history user account, next => .readHistory user account fun entries => next (.ok entries)
where
  /-- Write a row if there is one to write. -/
  write (row : Except LedgerError Account) (next : Except LedgerError Unit → Task ν α) : Task ν α :=
    match row with
    | .error e => next (.error e)
    | .ok account => .putAccount account (next (.ok ()))

/-- The accesses of a unit of work. -/
def Work.task : Work ν α → Task ν α
  | done result => .done result
  | panic text => .panic text
  | call c next => perform c fun answer => (next answer).task
  | now next => .now fun t => (next t).task
  | newId next => .newId fun id => (next id).task
  | convert amount target next => .convert amount target fun answer => (next answer).task
  | sleep millis next => .sleep millis next.task
  | note entry next => .note entry next.task

end Passbook.Session

import Passbook.Service.Operation
/-!
# The ledger as a service

Calls of operations on a store that is kept in memory, one after the other or side by side.  A call that
does not pass its check never comes to the store.
-/

namespace Passbook.Service

open Session (Simulation Outcome Converter)

/-- The service: its store and the currency of accounts for which none is named. -/
structure Ledger where
  defaultCurrency : Currency
  store : Simulation Empty Answer

/-- A call of an operation by a user, after a delay and within a time. -/
structure Call where
  user : UserId
  operation : Operation
  delay : Nat := 0
  timeout : Option Nat := none

namespace Ledger

def start (epoch : Nat) (defaultCurrency : Currency) (converter : Converter) : Ledger :=
  ⟨defaultCurrency, .start epoch converter⟩

/-- Convert amounts in another way from now on. -/
def withConverter (ledger : Ledger) (converter : Converter) : Ledger :=
  { ledger with store := { ledger.store with converter := converter } }

def arm (ledger : Ledger) (faults : Store.Faults) : Ledger :=
  { ledger with store := ledger.store.arm faults }

/-- The unit of work of a call. -/
def callOf (ledger : Ledger) (call : Call) : Simulation.Call Empty Answer where
  delay := call.delay
  user := call.user
  timeout := call.timeout
  work := call.operation.work ledger.defaultCurrency call.user
  bound := Operation.bound

/-- Put the outcomes of the calls that passed their checks where they belong. -/
def collect : List Call → List (Option (Outcome Answer)) → List (Option (Outcome Answer))
  | [], _ => []
  | call :: rest, outcomes =>
    match call.operation.check, outcomes with
    | .error e, outcomes => some (.failed e) :: collect rest outcomes
    | .ok (), outcome :: outcomes => outcome :: collect rest outcomes
    | .ok (), [] => none :: collect rest []

/-- Carry out calls side by side. -/
def performAll (ledger : Ledger) (calls : List Call) : List (Option (Outcome Answer)) × Ledger :=
  let checked := calls.filter fun call => call.operation.check.isOk
  let (reports, store) := ledger.store.run (checked.map ledger.callOf)
  (collect calls (reports.map (·.outcome)), { ledger with store := store })

/-- Carry out one call. -/
def perform (ledger : Ledger) (call : Call) : Option (Outcome Answer) × Ledger :=
  let (outcomes, ledger) := ledger.performAll [call]
  (outcomes.head?.join, ledger)

end Ledger

/-! ### A database that is closed -/

/-- The failure of every attempt to use a database whose connections are closed. -/
def closedFailure (operation : String) : LedgerError :=
  .ofFault (.operation operation (.database .poolClosed))

/-- The outcome of an operation on a closed database: a call that passes its check fails when its unit
of work is to begin, whatever its deadline. -/
def Operation.onClosed (operation : Operation) : LedgerError :=
  match operation.check with
  | .error e => e
  | .ok () => closedFailure "begin"

end Passbook.Service

import Passbook.Proofs.Session.Events
/-!
# Exchanges with the store

What a unit of work asks of the store and what it is answered.  Work that records its exchanges makes the same
calls as the work it records and goes the same way; after every answer it makes a note of it.
-/

namespace Passbook.Session

variable {ν α : Type}

/-- A store call and what it was answered. -/
structure Exchange where
  call : Store.Call
  answer : Except LedgerError call.Answer

/-- The same work, which notes its exchanges with the store between its own notes. -/
def Work.recorded : Work ν α → Work (ν ⊕ Exchange) α
  | .done result => .done result
  | .panic text => .panic text
  | .call query next => .call query fun answer => .note (.inr ⟨query, answer⟩) (next answer).recorded
  | .now next => .now fun t => (next t).recorded
  | .newId next => .newId fun id => (next id).recorded
  | .convert amount target next => .convert amount target fun answer => (next answer).recorded
  | .sleep millis next => .sleep millis next.recorded
  | .note entry next => .note (.inl entry) next.recorded

/-- The same event, but that a work that is called is to record its exchanges. -/
def Event.recorded : Event ν α → Event (ν ⊕ Exchange) α
  | .called context work => .called context work.recorded
  | .advanced number around => .advanced number around
  | .expired number => .expired number
  | .cancelled number => .cancelled number
  | .ticked millis => .ticked millis
  | .armed faults => .armed faults

def Session.exchanges (session : Session (ν ⊕ Exchange) α) : List Exchange :=
  session.notes.filterMap Sum.getRight?

/-! ### Accounts that were opened -/

/-- The account that was opened in an exchange, if one was. -/
def Exchange.opened? : Exchange → Option AccountId
  | ⟨.createAccount account, .ok _⟩ => some account.id
  | _ => none

/-- The accounts that a session has opened, in the order in which it did. -/
def Session.opened (session : Session (ν ⊕ Exchange) α) : List AccountId :=
  session.exchanges.filterMap Exchange.opened?

def Phase.isCompleted : Phase ν α → Bool
  | .releasing (.completed _) | .finished (.completed _) => true
  | _ => false

/-- The accounts that were opened by sessions whose runs have completed, each as often as it was opened. -/
def World.openings (world : World (ν ⊕ Exchange) α) : List AccountId :=
  (world.sessions.filter (·.phase.isCompleted)).flatMap Session.opened

end Passbook.Session

import Passbook.Session.Simulation
/-!
# Scripts

A script is a list of actions in one session.  What every action comes to is noted; an action that fails
ends the script, unless it is told to keep going.
-/

namespace Passbook.Session

open Store (Call)

inductive Action where
  | create (account : Account)
  | get (id : AccountId)
  | getIncludingClosed (id : AccountId)
  | lock (id : AccountId)
  | update (account : Account)
  /-- Load an account for update, add an amount to it, and write it back. -/
  | credit (id : AccountId) (amount : Money) (time : Timestamp)
  /-- Load an account for update, take an amount from it, and write it back. -/
  | debit (id : AccountId) (amount : Money) (time : Timestamp)
  | delete (id : AccountId)
  | createEntry (entry : LedgerEntry)
  | getEntry (id : TransactionId)
  | history (user : UserId) (account : AccountId)
  | sleep (millis : Nat)
  /-- End the script with an error, in any case. -/
  | fail (e : LedgerError)
  | panic (text : String)
  /-- Note an error; end nothing. -/
  | record (e : LedgerError)
  /-- Note an error as that of an action that fails. -/
  | refuse (e : LedgerError)
deriving DecidableEq

/-- What an action comes to. -/
inductive Note where
  | done
  | account (account : Account)
  | entry (entry : LedgerEntry)
  | entries (entries : List LedgerEntry)
  | failed (e : LedgerError)
deriving DecidableEq

namespace Action

/-- Load an account for update, change it, and write it back. -/
def change (id : AccountId) (f : Account → Except LedgerError Account) : Work Note Account := do
  let account ← Work.ask (.accountForUpdate id)
  let changed ← Work.ofExcept (f account)
  Work.ask (.updateAccount changed)
  return changed

/-- The work of an action, up to what it comes to. -/
def work : Action → Work Note Note
  | create account => do Work.ask (.createAccount account); return .done
  | get id => do return .account (← Work.ask (.account id))
  | getIncludingClosed id => do return .account (← Work.ask (.accountIncludingClosed id))
  | lock id => do return .account (← Work.ask (.accountForUpdate id))
  | update account => do Work.ask (.updateAccount account); return .done
  | credit id amount time => do return .account (← change id (·.credit amount time))
  | debit id amount time => do return .account (← change id (·.debit amount time))
  | delete id => do Work.ask (.deleteAccount id); return .done
  | createEntry entry => do Work.ask (.createEntry entry); return .done
  | getEntry id => do return .entry (← Work.ask (.entry id))
  | history user account => do return .entries (← Work.ask (.history user account))
  | sleep millis => .sleep millis (pure .done)
  | fail e | refuse e => Work.fail e
  | record e => pure (.failed e)
  | panic text => .panic text

/-- Whether an action that fails ends the script even if it is to keep going. -/
def isFinal : Action → Bool
  | fail _ => true
  | _ => false

/-- No action takes more steps. -/
def bound : Nat := 24

end Action

/-- Go on with what work comes to, be it an error. -/
def Work.settle {ν α β : Type} : Work ν α → (Except LedgerError α → Work ν β) → Work ν β
  | done result, f => f result
  | panic text, _ => panic text
  | call c next, f => call c fun answer => (next answer).settle f
  | now next, f => now fun t => (next t).settle f
  | newId next, f => newId fun id => (next id).settle f
  | convert amount target next, f => convert amount target fun answer => (next answer).settle f
  | sleep millis next, f => sleep millis (next.settle f)
  | note entry next, f => note entry (next.settle f)

def script (keepGoing : Bool) : List Action → Work Note Unit
  | [] => pure ()
  | action :: rest =>
    action.work.settle fun
      | .ok note => .note note (script keepGoing rest)
      | .error e =>
        .note (.failed e)
          (if keepGoing && !action.isFinal then script keepGoing rest else Work.fail e)

def scriptCall (user : UserId) (timeout : Option Nat) (keepGoing : Bool) (actions : List Action) :
    Simulation.Call Note Unit where
  delay := 0
  user := user
  timeout := timeout
  work := script keepGoing actions
  bound := Action.bound * actions.length

end Passbook.Session

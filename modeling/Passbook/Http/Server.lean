import Passbook.Config.Settings
import Passbook.Http.Request
import Passbook.Http.View
import Passbook.Net.DatabaseUrl
import Passbook.Service.Ledger
/-!
# The server

Requests are carried out on a ledger one after the other, and each gets a reply.
-/

namespace Passbook.Http

open Service (Answer Ledger Operation)
open Session (Outcome)

/-- A ledger, and how many milliseconds an operation on it may take. -/
structure Server where
  ledger : Ledger
  operationTimeout : Nat

namespace Server

/-- A server with an empty ledger that is kept in memory. -/
def inMemory (epoch : Nat) (settings : Config.Settings) : Server where
  ledger := .start epoch settings.defaultCurrency (.ofRates settings.rates)
  operationTimeout := settings.operationTimeout

/-- The server for settings.  If they name a database it is connected to first. -/
def ofSettings (epoch : Nat) (settings : Config.Settings) : Except LedgerError Server :=
  match settings.database with
  | some database => .error (Net.connectFailure database.url)
  | none => .ok (inMemory epoch settings)

/-- The reply that shows the answer of an operation. -/
def replyTo : Operation → Answer → Reply
  | _, .account account => .withBody 201 account.view
  | .balance id, .balance money => .withBody 200 (Account.balanceView id money)
  | _, .balance money => .withBody 200 money.view
  | _, .entry entry => .withBody 200 entry.view
  | _, .history entries => .withBody 200 (.object [("items", .array (entries.map LedgerEntry.view))])
  | _, .closed => .bare 204

/-- The reply that shows how an operation ended. -/
def replyToOutcome (operation : Operation) : Option (Outcome Answer) → Reply
  | some (.completed answer) => replyTo operation answer
  | some (.failed e) => .ofError e
  | _ => .bare 500

def carryOut (server : Server) : Demand → Reply × Server
  | .reply reply => (reply, server)
  | .perform user operation =>
    let (outcome, ledger) := server.ledger.perform
      { user := user, operation := operation, timeout := some server.operationTimeout }
    (replyToOutcome operation outcome, { server with ledger := ledger })

/-- Reply to a request.  A reply to `HEAD` has no body. -/
def respond (server : Server) (request : Request) : Reply × Server :=
  let (reply, server) := server.carryOut request.demand
  (if request.method = .head then .bare reply.status else reply, server)

end Server

end Passbook.Http

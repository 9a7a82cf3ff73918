import Passbook.Error
import Passbook.Json.Value
/-!
# Replies

A reply is a status and a body.  Every error of the ledger has a status of its own; of a failure that is
no refusal the client is told nothing.
-/

namespace Passbook.Http

open Json (Value)

/-- A reply.  Without a body it is empty. -/
structure Reply where
  status : Nat
  body : Option Value
deriving Repr, Inhabited

def Reply.withBody (status : Nat) (body : Value) : Reply := ⟨status, some body⟩

def Reply.bare (status : Nat) : Reply := ⟨status, none⟩

def statusOf : Refusal → Nat
  | .notFound _ => 404
  | .alreadyExists _ => 409
  | .insufficientFunds _ _ | .conversionFailure _ => 422
  | .invalidCurrency _ | .invalid _ => 400
  | .unauthorized => 403
  | .timeout => 504

def errorBody (kind message : String) : Value :=
  .object [("error", .string kind), ("message", .string message)]

def Reply.ofError : LedgerError → Reply
  | .refused reason => .withBody (statusOf reason) (errorBody reason.kind reason.message)
  | .unknown cause => .withBody 500 (errorBody (LedgerError.kind (.unknown cause)) "internal error")

end Passbook.Http

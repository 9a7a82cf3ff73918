import Passbook.Http.Body
import Passbook.Http.MediaType
import Passbook.Http.Reply
import Passbook.Http.Route
import Passbook.Net.Percent
/-!
# Requests

What a request demands: either it has a reply that does not depend on the ledger, or it asks for one
operation in the name of a user.  Whoever asks has to be known first, then the path is looked at, then
the method, then the identifier in the path, and the body last.
-/

namespace Passbook.Http

open Json (Shape)
open Service (Operation)

structure Request where
  method : Method
  /-- The path with its query. -/
  path : String
  /-- Whom the gateway in front has found to be asking. -/
  user : Option String := none
  contentType : Option String := none
  /-- The bytes of the body, none if there is no body. -/
  body : List UInt8 := []
deriving DecidableEq, Repr

inductive Demand where
  /-- Nothing of the ledger. -/
  | reply (reply : Reply)
  | perform (user : UserId) (operation : Operation)

/-! ### Parts of a request -/

/-- Whether a character may stand in a header that is taken for text. -/
def isHeaderChar (c : Char) : Bool := c == '\t' || (' ' ≤ c && c ≤ '~')

/-- Who is asking. -/
def Request.identity? (request : Request) : Option UserId := do
  let header ← request.user
  if header.toList.all isHeaderChar then (UserId.parse header).toOption else none

def segmentText (segment : String) : Except Reply String :=
  (Net.percentDecode segment.toList).mapError fun _ => .bare 400

/-- The identifier in a segment of a path. -/
def readIdentifier {α : Type} (parse : String → Except LedgerError α) (segment : String) :
    Except Reply α := do
  (parse (← segmentText segment)).mapError .ofError

/-- Whether the body is announced as JSON, by a header that is taken for text. -/
def Request.hasJsonBody (request : Request) : Bool :=
  request.contentType.any fun header => header.toList.all isHeaderChar && announcesJson header

/-- How many bytes a body may have. -/
def bodyLimit : Nat := 2097152

/-- The body of a request, which has to be announced as JSON and must not be too long. -/
def Request.readBody {δ α : Type} (request : Request) (shape : Shape δ α) : Except Reply α :=
  if !request.hasJsonBody then .error (.bare 415)
  else if bodyLimit < request.body.length then .error (.bare 413)
  else
    match Json.readFront shape.read request.body with
    | .ok body => .ok body
    | .error .malformed => .error (.bare 400)
    | .error .mistyped => .error (.bare 422)

/-- The currency in the body of an opening.  A body that cannot be read is as good as none. -/
def Request.openingCurrency (request : Request) : Except LedgerError (Option Currency) :=
  match request.readBody OpeningBody.shape with
  | .ok body => body.currency.mapM Currency.parse
  | .error _ => .ok none

/-! ### What it demands -/

/-- A demand that may have failed. -/
def Demand.ofExcept (user : UserId) : Except Reply Operation → Demand
  | .ok operation => .perform user operation
  | .error refusal => .reply refusal

/-- The operation that a movement asks for. -/
def Request.movement (request : Request) (direction : Service.Direction) (segment : String) :
    Except Reply Operation := do
  let id ← segmentText segment
  let body ← request.readBody MovementBody.shape
  Except.mapError .ofError do
    return .move direction (← body.toRequest (← AccountId.parse id))

/-- What a known user demands at an endpoint. -/
def Request.demandAt (request : Request) (user : UserId) : Endpoint → Demand
  | .health => .reply (.bare 200)
  | .whoami => .reply (.withBody 200 (.object [("user_id", .string (toString user))]))
  | .openAccount =>
    .ofExcept user (Operation.openAccount <$> request.openingCurrency.mapError .ofError)
  | .closeAccount id => .ofExcept user (Operation.closeAccount <$> readIdentifier AccountId.parse id)
  | .balance id => .ofExcept user (Operation.balance <$> readIdentifier AccountId.parse id)
  | .move direction id => .ofExcept user (request.movement direction id)
  | .history id => .ofExcept user (Operation.history <$> readIdentifier AccountId.parse id)
  | .transaction id => .ofExcept user (Operation.transaction <$> readIdentifier TransactionId.parse id)

/-- What a known user demands. -/
def Request.demandOf (request : Request) (user : UserId) : Demand :=
  match Resource.ofPath? request.path with
  | none => .reply (.bare 404)
  | some resource =>
    match resource.endpoint? request.method with
    | some endpoint => request.demandAt user endpoint
    | none => .reply (.bare 405)

/-- What a request demands.  Only the state of health is told to everyone. -/
def Request.demand (request : Request) : Demand :=
  match Resource.ofPath? request.path, request.identity? with
  | some .health, _ =>
    .reply (.bare (if (Resource.health.endpoint? request.method).isSome then 200 else 405))
  | _, some user => request.demandOf user
  | _, none => .reply (.bare 401)

end Passbook.Http

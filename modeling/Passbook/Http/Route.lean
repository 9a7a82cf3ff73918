import Passbook.Service.Operation
/-!
# Routes

Which paths there are, and which methods may be used on each.  A segment of a path may be empty, except
at its end.
-/

namespace Passbook.Http

open Service (Direction)

inductive Method where
  | get
  | head
  | post
  | delete
  | other
deriving DecidableEq, Repr

def Method.ofName : String → Method
  | "GET" => .get
  | "HEAD" => .head
  | "POST" => .post
  | "DELETE" => .delete
  | _ => .other

/-- What a path leads to.  Identifiers are as they stand in the path. -/
inductive Resource where
  | health
  | whoami
  | accounts
  | account (id : String)
  | balance (id : String)
  | movements (direction : Direction) (id : String)
  | history (id : String)
  | transaction (id : String)
deriving DecidableEq, Repr

/-- What can be asked for. -/
inductive Endpoint where
  | health
  | whoami
  | openAccount
  | closeAccount (id : String)
  | balance (id : String)
  | move (direction : Direction) (id : String)
  | history (id : String)
  | transaction (id : String)
deriving DecidableEq, Repr

/-- The segments of a path, the query left aside. -/
def segments (path : String) : List String :=
  ((path.toList.takeWhile fun c => c ≠ '?' && c ≠ '#').splitOn '/').map String.ofList

def Resource.ofSegments? : List String → Option Resource
  | ["", "health"] => some .health
  | ["", "whoami"] => some .whoami
  | ["", "accounts"] => some .accounts
  | ["", "accounts", id] => if id.isEmpty then none else some (.account id)
  | ["", "accounts", id, "balance"] => some (.balance id)
  | ["", "accounts", id, "deposit"] => some (.movements .credit id)
  | ["", "accounts", id, "withdraw"] => some (.movements .debit id)
  | ["", "accounts", id, "transactions"] => some (.history id)
  | ["", "transactions", id] => if id.isEmpty then none else some (.transaction id)
  | _ => none

def Resource.ofPath? (path : String) : Option Resource := ofSegments? (segments path)

/-- What a method asks of a resource.  `HEAD` asks what `GET` does. -/
def Resource.endpoint? : Resource → Method → Option Endpoint
  | .health, .get | .health, .head => some .health
  | .whoami, .get | .whoami, .head => some .whoami
  | .accounts, .post => some .openAccount
  | .account id, .delete => some (.closeAccount id)
  | .balance id, .get | .balance id, .head => some (.balance id)
  | .movements direction id, .post => some (.move direction id)
  | .history id, .get | .history id, .head => some (.history id)
  | .transaction id, .get | .transaction id, .head => some (.transaction id)
  | _, _ => none

example : Resource.ofPath? "/accounts//balance?x=1" = some (.balance "") := by decide +kernel

example : Resource.ofPath? "/accounts/" = none := by decide +kernel

end Passbook.Http

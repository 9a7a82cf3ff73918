import Passbook.Error.Classify
import Passbook.Net.Url
import Passbook.Text.Natural
import Passbook.Text.Quoted
/-!
# Addresses of databases

The address of a database is checked before anything is sent to it: first its own form, then the texts
in it, then its parameters, in the order in which they stand.  The first thing wrong is the reason why no
connection can be made.
-/

namespace Passbook.Net

-- Powers are those of natural numbers and integers, whatever else is in scope.
attribute [local instance (2000)] instPowNat

inductive DatabaseUrlProblem where
  | url (problem : UrlProblem)
  /-- A part of it is not UTF-8. -/
  | encoding (reason : String)
  /-- The mode of encryption is not known. -/
  | sslMode (mode : String)
  | number (error : Text.NaturalError)
  | hostAddress
deriving DecidableEq, Repr

def DatabaseUrlProblem.toFault : DatabaseUrlProblem → Fault
  | .url problem => .foreign problem.message
  | .encoding reason => .foreign reason
  | .sslMode mode =>
    .configuration (.foreign s!"unknown value {Text.quoted mode} for \x60ssl_mode\x60")
  | .number error => .foreign error.message
  | .hostAddress => .foreign "invalid IP address syntax"

/-! ### Parameters -/

def sslModes : List String := ["disable", "allow", "prefer", "require", "verify-ca", "verify-full"]

/-- Check a number below a bound. -/
def checkNatural (bound : Nat) (value : String) : Except DatabaseUrlProblem Unit :=
  match Text.readNaturalBelow bound value with
  | .ok _ => .ok ()
  | .error e => .error (.number e)

/-- Check a parameter.  One with an unknown name does not count. -/
def checkParameter (name value : String) : Except DatabaseUrlProblem Unit :=
  match name with
  | "sslmode" | "ssl-mode" =>
    if (sslModes.contains (String.ofList (value.toList.map Char.toLower))) then .ok ()
    else .error (.sslMode value)
  | "port" => checkNatural (2 ^ (16 : Nat)) value
  | "statement-cache-capacity" => checkNatural (2 ^ (64 : Nat)) value
  | "hostaddr" => if isAddress value.toList then .ok () else .error .hostAddress
  | _ => .ok ()

/-- Check that a part is UTF-8. -/
def checkEncoding (part : List Char) : Except DatabaseUrlProblem Unit :=
  match percentDecode part with
  | .ok _ => .ok ()
  | .error reason => .error (.encoding reason)

/-- Check the address of a database.  A host that begins with a slash is a path as well. -/
def checkDatabaseUrl (text : String) : Except DatabaseUrlProblem Unit := do
  let url ← (Url.parse text).mapError .url
  if (percentBytes url.host).head? = some 0x2f then checkEncoding url.host
  checkEncoding url.user
  checkEncoding url.password
  checkEncoding (url.path.dropWhile (· == '/'))
  (formFields url.query).forM fun (name, value) => checkParameter name value

/-- The outcome of connecting to the database at an address.  No server answers, so that what is left to
an address without fault is to wait until the time is over. -/
def connectFailure (text : String) : LedgerError :=
  match checkDatabaseUrl text with
  | .error problem => .ofFault (.operation "connect" (.configuration problem.toFault))
  | .ok _ => .ofFault (.operation "connect" (.database .poolTimedOut))

example : (connectFailure "postgres://u@:5432/db").message
    = "connect failed: error with configuration: empty host" := by decide +kernel

end Passbook.Net

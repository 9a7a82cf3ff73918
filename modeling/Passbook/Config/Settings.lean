import Passbook.Config.Log
import Passbook.Net.Address
import Passbook.Rates
import Passbook.Text.Natural
/-!
# Settings

The settings of the service are looked up by key.  A key that is absent or blank has its default; any
other value has to be valid, and the first key in a fixed order that is not decides the error.
-/

namespace Passbook.Config

-- Powers are those of natural numbers and integers, whatever else is in scope.
attribute [local instance (2000)] instPowNat

/-! ### Keys -/

inductive Key where
  | databaseUrl
  | maxConnections
  | acquireTimeout
  | defaultCurrency
  | operationTimeout
  | rates
  | address
  | logFormat
  | logFilter
deriving DecidableEq, Repr

/-- The name under which a key is looked up. -/
def Key.name : Key → String
  | .databaseUrl => "DATABASE_URL"
  | .maxConnections => "LEDGERLY_DB_MAX_CONNECTIONS"
  | .acquireTimeout => "LEDGERLY_DB_ACQUIRE_TIMEOUT_MS"
  | .defaultCurrency => "LEDGERLY_DEFAULT_CURRENCY"
  | .operationTimeout => "LEDGERLY_OPERATION_TIMEOUT_MS"
  | .rates => "LEDGERLY_FX_RATES"
  | .address => "LEDGERLY_HTTP_ADDR"
  | .logFormat => "LEDGERLY_LOG_FORMAT"
  | .logFilter => "LEDGERLY_LOG_FILTER"

/-- A key whose value is not valid, and why. -/
structure Invalid where
  key : Key
  reason : String
deriving DecidableEq, Repr

def Invalid.message (e : Invalid) : String := s!"invalid value for {e.key.name}: {e.reason}"

/-! ### Settings -/

structure DatabaseSettings where
  url : String
  maxConnections : Nat
  /-- How many milliseconds to wait for a connection. -/
  acquireTimeout : Nat
deriving DecidableEq, Repr

/-- A number of milliseconds in the largest unit of seconds and milliseconds that it fills. -/
def durationText (millis : Nat) : String :=
  if millis = 0 then "0ns"
  else if millis < 1000 then s!"{millis}ms"
  else
    let digits := toString (millis % 1000)
    let padded := List.replicate (3 - digits.length) '0' ++ digits.toList
    let fraction := (padded.reverse.dropWhile (· == '0')).reverse
    if fraction = [] then s!"{millis / 1000}s"
    else s!"{millis / 1000}." ++ String.ofList fraction ++ "s"

/-- The text of the settings in diagnostics.  The address of the database may hold a password and is not
shown. -/
def DatabaseSettings.debugText (settings : DatabaseSettings) : String :=
  "DatabaseConfig \x7b url: \"<redacted>\", max_connections: " ++ toString settings.maxConnections
    ++ ", acquire_timeout: " ++ durationText settings.acquireTimeout ++ " \x7d"

structure Settings where
  /-- Without a database the ledger is kept in memory. -/
  database : Option DatabaseSettings
  defaultCurrency : Currency
  /-- How many milliseconds an operation may take. -/
  operationTimeout : Nat
  rates : RateTable
  address : Net.SocketAddress
  log : LogSettings
deriving DecidableEq, Repr

/-! ### Reading -/

/-- A lookup of values by the names of their keys. -/
abbrev Lookup := String → Option String

/-- The value of a key, unless it is blank. -/
def Lookup.given (lookup : Lookup) (key : Key) : Option String :=
  (lookup key.name).filter (!Text.allBlank ·)

/-- The value of a key as `parse` reads it, or else the default. -/
def Lookup.read {α : Type} (lookup : Lookup) (key : Key) (default : α)
    (parse : String → Except String α) : Except Invalid α :=
  match lookup.given key with
  | none => .ok default
  | some text =>
    match parse text with
    | .ok a => .ok a
    | .error reason => .error ⟨key, reason⟩

/-- Read a natural number below a bound, blanks allowed around it. -/
def parseNatural (bound : Nat) (text : String) : Except String Nat :=
  (Text.readNaturalBelow bound (Text.trim text)).mapError (·.message)

/-- Read a number of milliseconds. -/
def parseMillis : String → Except String Nat := parseNatural (2 ^ (64 : Nat))

/-- Read a number of milliseconds that is not zero. -/
def parseTimeout (text : String) : Except String Nat := do
  let millis ← parseMillis text
  if millis = 0 then .error "must be positive" else .ok millis

/-- Read an address with a port, blanks allowed around it. -/
def parseAddress (text : String) : Except String Net.SocketAddress :=
  match Net.SocketAddress.parse? (Text.trim text) with
  | some address => .ok address
  | none => .error "invalid socket address syntax"

/-- The port 8080 on all interfaces. -/
def defaultAddress : Net.SocketAddress := .v4 ⟨[0, 0, 0, 0]⟩ 8080

/-- Read the settings of the database, if there is one. -/
def readDatabase (lookup : Lookup) : Except Invalid (Option DatabaseSettings) :=
  match lookup.given .databaseUrl with
  | none => .ok none
  | some url => do
    let maxConnections ← lookup.read .maxConnections 10 (parseNatural (2 ^ (32 : Nat)))
    let acquireTimeout ← lookup.read .acquireTimeout 3000 parseMillis
    return some ⟨url, maxConnections, acquireTimeout⟩

def Settings.read (lookup : Lookup) : Except Invalid Settings := do
  let database ← readDatabase lookup
  let currency ← lookup.read .defaultCurrency .usd fun text =>
    (Currency.parse text).mapError (·.message)
  let timeout ← lookup.read .operationTimeout 5000 parseTimeout
  let rates ← lookup.read .rates RateTable.empty fun text =>
    (RateTable.parse text).mapError (·.message)
  let address ← lookup.read .address defaultAddress parseAddress
  let format ← lookup.read .logFormat LogSettings.standard.format fun text =>
    (LogFormat.parse text).mapError (·.message)
  let filter := (lookup.given .logFilter).getD LogSettings.standard.filter
  return {
    database := database
    defaultCurrency := currency
    operationTimeout := timeout
    rates := rates
    address := address
    log := ⟨format, filter⟩ }

example : ([0, 250, 1500, 1001, 60000].map durationText) = ["0ns", "250ms", "1.5s", "1.001s", "60s"] := by
  decide +kernel

end Passbook.Config

import Passbook.Money.Basic
/-!
# Errors

Every operation of the ledger that fails is either refused for one of eight reasons or fails for a
cause that is none of them.  Causes are error values of the layers below; a cause may have a source of
its own, so that an error is a chain.
-/

namespace Passbook

/-- The reasons for which the ledger refuses an operation. -/
inductive Refusal where
  /-- An account, user or entry is absent. -/
  | notFound (what : String)
  /-- An identifier is taken. -/
  | alreadyExists (what : String)
  /-- A withdrawal would take the balance below zero. -/
  | insufficientFunds (available requested : Money)
  /-- No converted amount could be had. -/
  | conversionFailure (reason : String)
  /-- A currency code is malformed or unknown, or two currencies are mixed. -/
  | invalidCurrency (reason : String)
  /-- A value is not acceptable. -/
  | invalid (reason : String)
  /-- The acting user does not own the account. -/
  | unauthorized
  /-- The deadline passed before the operation was complete. -/
  | timeout
deriving DecidableEq, Repr

/-- The stable name of a reason. -/
def Refusal.kind : Refusal → String
  | .notFound _ => "not_found"
  | .alreadyExists _ => "already_exists"
  | .insufficientFunds _ _ => "insufficient_funds"
  | .conversionFailure _ => "conversion_failure"
  | .invalidCurrency _ => "invalid_currency"
  | .invalid _ => "validation_error"
  | .unauthorized => "unauthorized"
  | .timeout => "timeout"

def Refusal.message : Refusal → String
  | .notFound what => s!"not found: {what}"
  | .alreadyExists what => s!"already exists: {what}"
  | .insufficientFunds available requested =>
      s!"insufficient funds: balance {available}, requested {requested}"
  | .conversionFailure reason => s!"currency conversion failed: {reason}"
  | .invalidCurrency reason => s!"invalid currency: {reason}"
  | .invalid reason => s!"validation failed: {reason}"
  | .unauthorized => "unauthorized"
  | .timeout => "operation timed out"

/-! ### Causes -/

/-- Why an amount could not be converted. -/
inductive ConversionError where
  | unsupportedPair (source target : Currency)
  | outOfRange
  | provider (reason : String)
deriving DecidableEq, Repr

def ConversionError.message : ConversionError → String
  | .unsupportedPair source target => s!"no rate from {source} to {target}"
  | .outOfRange => "converted amount is out of range"
  | .provider reason => s!"rate provider error: {reason}"

/-- Failures of a store that have no source. -/
inductive StoreFailure where
  | recordNotFound (what : String)
  | duplicateKey (what : String)
  | missingReference (what : String)
  | constraintViolated (what : String)
  | corrupt (what : String)
  | lockPoisoned
  | injectedFault (place : String)
deriving DecidableEq, Repr

def StoreFailure.message : StoreFailure → String
  | .recordNotFound what => s!"record not found: {what}"
  | .duplicateKey what => s!"duplicate key: {what}"
  | .missingReference what => s!"missing referenced record: {what}"
  | .constraintViolated what => s!"constraint violated: {what}"
  | .corrupt what => s!"corrupt record: {what}"
  | .lockPoisoned => "store lock poisoned"
  | .injectedFault place => s!"injected fault: {place}"

/-- The constraints a database server may report as violated. -/
inductive Constraint where
  | unique
  | foreignKey
  | check
  | notNull
  | other
deriving DecidableEq, Repr

/-- Failures of a database that have no source. -/
inductive DatabaseFailure where
  | rowNotFound
  | poolTimedOut
  | poolClosed
  | workerCrashed
  | protocol (reason : String)
  | columnNotFound (column : String)
  /-- The server refused a statement. -/
  | rejected (constraint : Constraint) (reason : String)
deriving DecidableEq, Repr

def DatabaseFailure.message : DatabaseFailure → String
  | .rowNotFound =>
      "no rows returned by a query that expected to return at least one row"
  | .poolTimedOut => "pool timed out while waiting for an open connection"
  | .poolClosed => "attempted to acquire a connection on a closed pool"
  | .workerCrashed => "attempted to communicate with a crashed background worker"
  | .protocol reason => s!"encountered unexpected or invalid data: {reason}"
  | .columnNotFound column => s!"no column found for name: {column}"
  | .rejected _ reason => s!"error returned from database: db: {reason}"

/-- Error values of any layer.  The constructors that hold a `Fault` are the links of a chain. -/
inductive Fault where
  /-- The ledger's own refusal. -/
  | refusal (reason : Refusal)
  /-- A failure the ledger passed on.  It stands for its cause: it has the cause's text and source. -/
  | unknown (cause : Fault)
  | store (failure : StoreFailure)
  /-- A store operation failed because of its source. -/
  | operation (name : String) (source : Fault)
  | database (failure : DatabaseFailure)
  /-- The database's settings are unusable. -/
  | configuration (source : Fault)
  /-- A column could not be decoded. -/
  | decode (source : Fault)
  | conversion (error : ConversionError)
  /-- A failure of the operating system. -/
  | io (text : String)
  /-- A failure of the operating system that shows another error: its text and its source, but not
  the error itself. -/
  | ioShowing (shown : Fault)
  /-- An error of some other layer. -/
  | foreign (text : String)
  /-- An error of some other layer that has a source. -/
  | foreignOver (text : String) (source : Fault)
deriving DecidableEq, Repr

def Fault.message : Fault → String
  | .refusal reason => reason.message
  | .unknown cause => cause.message
  | .store failure => failure.message
  | .operation name source => s!"{name} failed: {source.message}"
  | .database failure => failure.message
  | .configuration source => s!"error with configuration: {source.message}"
  | .decode source => s!"error occurred while decoding: {source.message}"
  | .conversion error => error.message
  | .io text => text
  | .ioShowing shown => shown.message
  | .foreign text => text
  | .foreignOver text _ => text

/-- How an operation of the ledger fails. -/
inductive LedgerError where
  /-- It is refused. -/
  | refused (reason : Refusal)
  /-- It fails for a cause that is no refusal. -/
  | unknown (cause : Fault)
deriving DecidableEq, Repr

namespace LedgerError

/-- The stable name of the kind of error. -/
def kind : LedgerError → String
  | .refused reason => reason.kind
  | .unknown _ => "unknown"

def message : LedgerError → String
  | .refused reason => reason.message
  | .unknown cause => cause.message

def toFault : LedgerError → Fault
  | .refused reason => .refusal reason
  | .unknown cause => .unknown cause

/-- Refused: something is absent. -/
@[match_pattern] abbrev notFound (what : String) : LedgerError := .refused (.notFound what)

/-- Refused: an identifier is taken. -/
@[match_pattern] abbrev alreadyExists (what : String) : LedgerError := .refused (.alreadyExists what)

/-- Refused: the balance is too low. -/
@[match_pattern] abbrev insufficientFunds (available requested : Money) : LedgerError :=
  .refused (.insufficientFunds available requested)

/-- Refused: no converted amount could be had. -/
@[match_pattern] abbrev conversionFailure (reason : String) : LedgerError :=
  .refused (.conversionFailure reason)

/-- Refused: a currency is malformed, unknown or the wrong one. -/
@[match_pattern] abbrev invalidCurrency (reason : String) : LedgerError :=
  .refused (.invalidCurrency reason)

/-- Refused: a value is not acceptable. -/
@[match_pattern] abbrev invalid (reason : String) : LedgerError := .refused (.invalid reason)

/-- Refused: the acting user does not own the account. -/
@[match_pattern] abbrev unauthorized : LedgerError := .refused .unauthorized

/-- Refused: the deadline has passed. -/
@[match_pattern] abbrev timeout : LedgerError := .refused .timeout

def ofConversion (error : ConversionError) : LedgerError := conversionFailure error.message

end LedgerError

end Passbook

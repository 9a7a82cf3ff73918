import Passbook.Entry.Basic
import Passbook.Record.Account
/-!
# Records of ledger entries

The JSON form in which an entry is kept.  Reading it checks no rule of the ledger: neither the sign of
an amount nor that of a rate.
-/

namespace Passbook

open Json (Reader Shape Problem Value)

/-- A channel is kept as its name. -/
def MoneySource.toRecord (source : MoneySource) : Value := .string source.name

/-- Read a channel: its name, or a record with that name for its only member and no value. -/
def MoneySource.readRecord : Reader MoneySource
  | .string (some name) => known name
  | .string none => .error .malformed
  | .object ((some name, value) :: rest) closed => do
    let source ← known name
    match value with
    | .null => if rest.isEmpty && closed then .ok source else .error .malformed
    | other => .error other.misplaced
  | _ => .error .malformed
where
  /-- The channel with a name. -/
  known (name : String) : Except Problem MoneySource :=
    match ofName? name with
    | some source => .ok source
    | none => .error .mistyped

/-- A decimal is kept as its written form. -/
def Decimal.toRecord (d : Decimal) : Value := .string d.toText

/-- Read a decimal, from a text or from a number. -/
def Decimal.readRecord : Reader Decimal
  | .number literal =>
    match literal.value? with
    | some value =>
      match parse value.toPlainText with
      | .ok d => .ok d
      | .error _ => .error .mistyped
    | none => .error .malformed
  | other => other.readTextAs fun text => (parse text).toOption

namespace ConversionInfo

/-- Stated amount and rate. -/
def toRecord (info : ConversionInfo) : Value :=
  .object [("original", info.stated.toRecord), ("rate", info.rate.toRecord)]

/-- A conversion as far as it has been read. -/
structure Draft where
  stated : Option Money
  rate : Option Decimal

/-- How a conversion is read. -/
def shape : Shape Draft ConversionInfo where
  empty := ⟨none, none⟩
  fields :=
    [.of "original" Money.readRecord fun money draft => { draft with stated := some money },
      .of "rate" Decimal.readRecord fun rate draft => { draft with rate := some rate }]
  build draft := do return ⟨← draft.stated, ← draft.rate⟩

def readRecord : Reader ConversionInfo := shape.read

end ConversionInfo

namespace LedgerEntry

/-- All parts of an entry. -/
def toRecord (entry : LedgerEntry) : Value :=
  .object
    [("id", entry.id.uuid.toRecord), ("account_id", entry.account.uuid.toRecord),
      ("user_id", entry.user.uuid.toRecord), ("amount", entry.amount.toRecord),
      ("balance", entry.balance.toRecord), ("money_source", entry.source.toRecord),
      ("conversion", .ofOption (entry.conversion.map ConversionInfo.toRecord)),
      ("external_target_masked", .ofOption (entry.maskedTarget.map .string)),
      ("created_at", entry.createdAt.toRecord)]

/-- An entry as far as it has been read. -/
structure Draft where
  id : Option TransactionId
  account : Option AccountId
  user : Option UserId
  amount : Option Money
  balance : Option Money
  source : Option MoneySource
  conversion : Option ConversionInfo
  maskedTarget : Option String
  createdAt : Option Timestamp

/-- How an entry is read.  Conversion and target may be missing. -/
def shape : Shape Draft LedgerEntry where
  empty := ⟨none, none, none, none, none, none, none, none, none⟩
  fields :=
    [.of "id" TransactionId.readRecord fun id draft => { draft with id := some id },
      .of "account_id" AccountId.readRecord fun id draft => { draft with account := some id },
      .of "user_id" UserId.readRecord fun id draft => { draft with user := some id },
      .of "amount" Money.readRecord fun money draft => { draft with amount := some money },
      .of "balance" Money.readRecord fun money draft => { draft with balance := some money },
      .of "money_source" MoneySource.readRecord fun source draft =>
        { draft with source := some source },
      .of "conversion" (Json.Tree.readOptional ConversionInfo.readRecord) fun info draft =>
        { draft with conversion := info },
      .of "external_target_masked" (Json.Tree.readOptional Json.Tree.readText) fun text draft =>
        { draft with maskedTarget := text },
      .of "created_at" Timestamp.readRecord fun t draft => { draft with createdAt := some t }]
  build draft := do
    return {
      id := ← draft.id
      account := ← draft.account
      user := ← draft.user
      amount := ← draft.amount
      balance := ← draft.balance
      source := ← draft.source
      conversion := draft.conversion
      maskedTarget := draft.maskedTarget
      createdAt := ← draft.createdAt }

def readRecord : Reader LedgerEntry := shape.read

end LedgerEntry

end Passbook

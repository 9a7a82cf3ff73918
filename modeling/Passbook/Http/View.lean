import Passbook.Entry.Basic
import Passbook.Json.Value
import Passbook.Time.Text
/-!
# Answers to clients

The JSON forms in which accounts, balances, entries and errors are shown to clients.
-/

namespace Passbook

open Json (Value)

/-- Major units for people, minor units for programs. -/
def Money.view (money : Money) : Value :=
  .object
    [("amount", .string money.toMajor.toText), ("amount_minor", .integer money.amount),
      ("currency", .string money.currency.code)]

/-- An account, whether it is closed left aside. -/
def Account.view (account : Account) : Value :=
  .object
    [("id", .string account.id.uuid.toText), ("owner_id", .string account.owner.uuid.toText),
      ("currency", .string account.currency.code), ("balance", account.balance.view),
      ("created_at", .string account.createdAt.toOffsetText),
      ("updated_at", .string account.updatedAt.toOffsetText)]

def Account.balanceView (id : AccountId) (balance : Money) : Value :=
  .object [("account_id", .string id.uuid.toText), ("balance", balance.view)]

/-- What an amount was converted from. -/
def ConversionInfo.view (info : ConversionInfo) : Value :=
  .object [("original", info.stated.view), ("rate", .string info.rate.toText)]

/-- An entry.  Of an external target the masked form is shown. -/
def LedgerEntry.view (entry : LedgerEntry) : Value :=
  .object
    [("id", .string entry.id.uuid.toText), ("account_id", .string entry.account.uuid.toText),
      ("direction", .string (if entry.isCredit then "credit" else "debit")),
      ("amount", entry.amount.view), ("balance", entry.balance.view),
      ("money_source", .string entry.source.name),
      ("conversion", .ofOption (entry.conversion.map ConversionInfo.view)),
      ("external_target", .ofOption (entry.maskedTarget.map .string)),
      ("created_at", .string entry.createdAt.toOffsetText)]

end Passbook

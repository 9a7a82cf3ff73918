import Passbook.Account.Basic
import Passbook.Record.Money
import Passbook.Time.Text
/-!
# Records of accounts

The JSON form in which an account is kept.  Reading it checks no rule of the ledger: a record may hold a
balance below zero.
-/

namespace Passbook

open Json (Reader Shape Value)

/-- A point in time is kept as its written form. -/
def Timestamp.toRecord (t : Timestamp) : Value := .string t.toText

def Timestamp.readRecord : Reader Timestamp := fun tree => tree.readTextAs parse?

namespace Account

/-- All parts of an account. -/
def toRecord (account : Account) : Value :=
  .object
    [("id", account.id.uuid.toRecord), ("owner_id", account.owner.uuid.toRecord),
      ("balance", account.balance.toRecord), ("created_at", account.createdAt.toRecord),
      ("updated_at", account.updatedAt.toRecord),
      ("deleted_at", .ofOption (account.deletedAt.map Timestamp.toRecord))]

/-- An account as far as it has been read. -/
structure Draft where
  id : Option AccountId
  owner : Option UserId
  balance : Option Money
  createdAt : Option Timestamp
  updatedAt : Option Timestamp
  deletedAt : Option Timestamp

/-- How an account is read.  Only the time of closing may be missing. -/
def shape : Shape Draft Account where
  empty := ⟨none, none, none, none, none, none⟩
  fields :=
    [.of "id" AccountId.readRecord fun id draft => { draft with id := some id },
      .of "owner_id" UserId.readRecord fun owner draft => { draft with owner := some owner },
      .of "balance" Money.readRecord fun balance draft => { draft with balance := some balance },
      .of "created_at" Timestamp.readRecord fun t draft => { draft with createdAt := some t },
      .of "updated_at" Timestamp.readRecord fun t draft => { draft with updatedAt := some t },
      .of "deleted_at" (Json.Tree.readOptional Timestamp.readRecord) fun t draft =>
        { draft with deletedAt := t }]
  build draft := do
    return {
      id := ← draft.id
      owner := ← draft.owner
      balance := ← draft.balance
      createdAt := ← draft.createdAt
      updatedAt := ← draft.updatedAt
      deletedAt := draft.deletedAt }

def readRecord : Reader Account := shape.read

end Account

end Passbook

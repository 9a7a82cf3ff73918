import Passbook.Currency.Parse
import Passbook.Identifier
import Passbook.Json.Decode
import Passbook.Json.Value
/-!
# Records of small values

The JSON forms in which currencies, amounts and identifiers are kept: codes and identifiers as texts, an
amount as its minor units with its currency.
-/

namespace Passbook

open Json (Reader Shape Field Problem Value)

def Currency.toRecord (currency : Currency) : Value := .string currency.code

/-- Read a currency, whose code may be in any letter case with blanks around it. -/
def Currency.readRecord : Reader Currency := fun tree =>
  tree.readTextAs fun code => (parse code).toOption

/-- An identifier is kept as its written form. -/
def Uuid.toRecord (id : Uuid) : Value := .string id.toText

/-- Read an identifier, without blanks around it. -/
def Uuid.readRecord : Reader Uuid := fun tree => tree.readTextAs fun text => (parse text).toOption

def UserId.readRecord : Reader UserId := fun tree => UserId.mk <$> Uuid.readRecord tree

def AccountId.readRecord : Reader AccountId := fun tree => AccountId.mk <$> Uuid.readRecord tree

def TransactionId.readRecord : Reader TransactionId := fun tree =>
  TransactionId.mk <$> Uuid.readRecord tree

namespace Money

/-- Minor units and currency. -/
def toRecord (money : Money) : Value :=
  .object [("amount", .integer money.amount), ("currency", money.currency.toRecord)]

/-- An amount as far as it has been read. -/
structure Draft where
  amount : Option Int
  currency : Option Currency

/-- How an amount is read. -/
def shape : Shape Draft Money where
  empty := ⟨none, none⟩
  fields :=
    [.of "amount" Json.Tree.readInteger fun n draft => { draft with amount := some n },
      .of "currency" Currency.readRecord fun c draft => { draft with currency := some c }]
  build draft := do ofMinor? (← draft.amount) (← draft.currency)

def readRecord : Reader Money := shape.read

end Money

example :
    (Json.readAll Money.readRecord "\x7b\"currency\":\"eur\",\"amount\":-5\x7d").toOption.map
      Money.toText = some "-0.05 EUR" := by decide +kernel

end Passbook

import Passbook.Json.Decode
import Passbook.Movement
/-!
# Request bodies

What a client may send when it opens an account or moves funds, and how the second becomes a movement of
the ledger.
-/

namespace Passbook.Http

open Json (Reader Shape Problem Tree)

structure OpeningBody where
  currency : Option String
deriving DecidableEq, Repr

/-- How the body of an opening is read.  The currency may be missing. -/
def OpeningBody.shape : Shape (Option String) OpeningBody where
  empty := none
  fields := [.of "currency" (Tree.readOptional Tree.readText) fun text _ => text]
  build currency := some ⟨currency⟩

/-- The body of a deposit or withdrawal. -/
structure MovementBody where
  /-- The amount as it was written, or, if it was a number, the text of that number. -/
  amount : String
  currency : Option String
  source : Option String
  bankAccountNumber : Option String
  routingNumber : Option String
  walletAddress : Option String
deriving DecidableEq, Repr

/-- How deep lists and records may be nested in a member that is held before it is looked at. -/
def nestingLimit : Nat := 126

/-- Read an amount: a text, or a number, whose text it is then.  Whatever else stands here is first read
to its end. -/
def readAmount : Reader String
  | .string (some s) => .ok s
  | .number literal =>
    match literal.value? with
    | some value => .ok value.toText
    | none => .error .malformed
  | other => .error (if other.isHeldWithin nestingLimit then .mistyped else .malformed)

namespace MovementBody

/-- A body as far as it has been read. -/
structure Draft where
  amount : Option String
  currency : Option String
  source : Option String
  bankAccountNumber : Option String
  routingNumber : Option String
  walletAddress : Option String

/-- A member that may be missing or `null`. -/
def optionalText (name : String) (put : Option String → Draft → Draft) : Json.Field Draft :=
  .of name (Tree.readOptional Tree.readText) put

/-- How the body of a movement is read.  Only the amount is required. -/
def shape : Shape Draft MovementBody where
  empty := ⟨none, none, none, none, none, none⟩
  fields :=
    [.of "amount" readAmount fun text draft => { draft with amount := some text },
      optionalText "currency" fun text draft => { draft with currency := text },
      optionalText "source" fun text draft => { draft with source := text },
      optionalText "bank_account_number" fun text draft => { draft with bankAccountNumber := text },
      optionalText "routing_number" fun text draft => { draft with routingNumber := text },
      optionalText "wallet_address" fun text draft => { draft with walletAddress := text }]
  build draft := do
    return {
      amount := ← draft.amount
      currency := draft.currency
      source := draft.source
      bankAccountNumber := draft.bankAccountNumber
      routingNumber := draft.routingNumber
      walletAddress := draft.walletAddress }

/-- The currency that the amount is stated in, if the client named one. -/
def statedCurrency (body : MovementBody) : Except LedgerError (Option Currency) :=
  body.currency.mapM Currency.parse

/-- The external target.  A routing number needs a bank account, and a bank account excludes a wallet. -/
def target (body : MovementBody) : Except LedgerError (Option ExternalTarget) :=
  match body.bankAccountNumber, body.routingNumber, body.walletAddress with
  | none, none, none => .ok none
  | some _, _, some _ =>
      .error (.invalid "give either a bank account or a wallet address, not both")
  | none, some _, _ => .error (.invalid "routing number requires a bank account number")
  | some account, routing, none => some <$> ExternalTarget.ofBank account routing
  | none, none, some address => some <$> ExternalTarget.ofWallet address

/-- The movement that the body asks for on an account.  Where no channel is named, the target decides
it. -/
def toRequest (body : MovementBody) (account : AccountId) : Except LedgerError MovementRequest := do
  let amount ← RequestedAmount.parseMajor body.amount (← body.statedCurrency)
  let target ← body.target
  let source ←
    match body.source, target with
    | some name, _ => MoneySource.parse name
    | none, some target => pure target.source
    | none, none => pure .internal
  return { account := account, amount := amount, source := source, target := target }

end MovementBody

end Passbook.Http

import Passbook.Entry.Source
/-!
# External targets

The bank account or wallet on the other side of a movement.  Its identifiers live only as long as the
request; what is kept is the masked form, which shows at most four characters of an identifier and never
more than half of it.
-/

namespace Passbook

/-- A bank account, perhaps with a routing number, or a wallet. -/
inductive ExternalTarget where
  | bank (account : String) (routing : Option String)
  | wallet (address : String)
deriving DecidableEq

/-- How many characters of an identifier may be shown at most. -/
def Text.maxVisible : Nat := 4

/-- A text with everything but a short suffix replaced by asterisks. -/
def Text.maskSuffix (s : String) : String :=
  let cs := s.toList
  String.ofList ("****".toList ++ cs.drop (cs.length - min maxVisible (cs.length / 2)))

namespace ExternalTarget

/-- Read an identifier: letters and digits, `least` to `greatest` of them, blanks and dashes left out. -/
def readIdentifier (what : String) (least greatest : Nat) (text : String) : Except LedgerError String :=
  let cs := text.toList.filter fun c => !Text.isBlank c && c != '-'
  if cs = [] then
    .error (.invalid s!"{what} is required")
  else if !cs.all Char.isAlphanum then
    .error (.invalid s!"{what} must be alphanumeric")
  else if cs.length < least ∨ greatest < cs.length then
    .error (.invalid s!"{what} must be {least} to {greatest} characters")
  else
    .ok (String.ofList cs)

/-- A bank account from its number and, if there is one, its routing number. -/
def ofBank (account : String) (routing : Option String) : Except LedgerError ExternalTarget := do
  let account ← readIdentifier "bank account number" 4 34 account
  match routing with
  | none => return bank account none
  | some routing => return bank account (some (← readIdentifier "routing number" 4 34 routing))

def ofWallet (address : String) : Except LedgerError ExternalTarget :=
  wallet <$> readIdentifier "wallet address" 8 128 address

/-- The channel that leads to the target. -/
def source : ExternalTarget → MoneySource
  | bank _ _ => .externalBank
  | wallet _ => .externalWallet

/-- The form that is kept. -/
def masked : ExternalTarget → String
  | bank account (some routing) =>
      s!"bank {Text.maskSuffix account} routing {Text.maskSuffix routing}"
  | bank account none => s!"bank {Text.maskSuffix account}"
  | wallet address => s!"wallet {Text.maskSuffix address}"

/-- The text of a target in diagnostics, which is masked as well. -/
def debugText (target : ExternalTarget) : String := s!"ExternalTarget(\"{target.masked}\")"

instance : Repr ExternalTarget := ⟨fun target _ => target.debugText⟩

example : (ofBank "0001-2345-6789" none).toOption.map masked = some "bank ****6789" := by
  decide +kernel

end ExternalTarget

/-- A channel fits a target if it leads there.  A movement over an external channel may leave its target
unnamed. -/
def MoneySource.ensureCompatible (source : MoneySource) (target : Option ExternalTarget) :
    Except LedgerError Unit :=
  match target with
  | none => .ok ()
  | some target =>
    if source = internal then
      .error (.invalid "internal movements cannot carry an external target")
    else if target.source = source then
      .ok ()
    else
      .error (.invalid s!"{source} movement cannot target a {target.source}")

end Passbook

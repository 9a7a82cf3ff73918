import Passbook.Error
import Passbook.Text.Blank
import Passbook.Text.Lowercase
/-!
# Sources of money

The channel through which money enters or leaves the ledger.
-/

namespace Passbook

inductive MoneySource where
  | internal
  | externalBank
  | externalWallet
deriving DecidableEq, Repr

namespace MoneySource

/-- The name of a channel in records and texts. -/
def name : MoneySource → String
  | internal => "internal"
  | externalBank => "external_bank"
  | externalWallet => "external_wallet"

instance : ToString MoneySource := ⟨name⟩

/-- The channel with a name as it stands in records. -/
def ofName? (name : String) : Option MoneySource :=
  [internal, externalBank, externalWallet].find? (·.name == name)

/-- Read a channel as a caller may name it: in any letter case, blanks around it, `bank` and `wallet` for
short. -/
def parse (text : String) : Except LedgerError MoneySource :=
  match Text.toLower (Text.trim text) with
  | "internal" => .ok internal
  | "external_bank" | "bank" => .ok externalBank
  | "external_wallet" | "wallet" => .ok externalWallet
  | other => .error (.invalid s!"unknown money source '{other}'")

end MoneySource

end Passbook

import Passbook.Error
import Passbook.Text.Blank
import Passbook.Uuid.Parse
/-!
# Identifiers of users, accounts and entries

Three types around one: an identifier of a user cannot be taken for one of an account or an entry.
-/

namespace Passbook

/-- Read an identifier of a named type, blanks allowed around it. -/
def Uuid.parseFor (typeName text : String) : Except LedgerError Uuid :=
  match parse (Text.trim text) with
  | .ok u => .ok u
  | .error e => .error (.invalid s!"{typeName}: {e.message}")

structure UserId where
  uuid : Uuid
deriving DecidableEq, Repr

structure AccountId where
  uuid : Uuid
deriving DecidableEq, Repr

structure TransactionId where
  uuid : Uuid
deriving DecidableEq, Repr

instance : ToString UserId := ⟨fun id => id.uuid.toText⟩

instance : ToString AccountId := ⟨fun id => id.uuid.toText⟩

instance : ToString TransactionId := ⟨fun id => id.uuid.toText⟩

def UserId.parse (text : String) : Except LedgerError UserId :=
  UserId.mk <$> Uuid.parseFor "UserId" text

def AccountId.parse (text : String) : Except LedgerError AccountId :=
  AccountId.mk <$> Uuid.parseFor "AccountId" text

def TransactionId.parse (text : String) : Except LedgerError TransactionId :=
  TransactionId.mk <$> Uuid.parseFor "TransactionId" text

end Passbook

import Passbook.Account.Basic
import Passbook.Entry.Basic
/-!
# Tables

The ledger's two tables: accounts, one row for each identifier, and entries in the order in which they
were committed.  What a session has written but not committed has the same form.
-/

namespace Passbook.Store

/-- Rows of accounts and entries. -/
structure Tables where
  accounts : List Account
  /-- The oldest entry comes first. -/
  entries : List LedgerEntry
deriving DecidableEq, Repr

namespace Tables

def empty : Tables := ⟨[], []⟩

instance : Inhabited Tables := ⟨empty⟩

def account? (tables : Tables) (id : AccountId) : Option Account :=
  tables.accounts.find? (·.id == id)

def entry? (tables : Tables) (id : TransactionId) : Option LedgerEntry :=
  tables.entries.find? (·.id == id)

def entryCount (tables : Tables) (id : AccountId) : Nat :=
  (tables.entries.filter (·.account == id)).length

/-- Write the row of an account, in place of an earlier one. -/
def putAccount (tables : Tables) (account : Account) : Tables :=
  { tables with
    accounts :=
      if tables.accounts.any (·.id == account.id) then
        tables.accounts.map fun row => if row.id = account.id then account else row
      else
        tables.accounts ++ [account] }

def addEntry (tables : Tables) (entry : LedgerEntry) : Tables :=
  { tables with entries := tables.entries ++ [entry] }

/-- Write all rows of another pair of tables. -/
def extend (tables written : Tables) : Tables :=
  { written.accounts.foldl putAccount tables with entries := tables.entries ++ written.entries }

/-- How many entries a history shows at most. -/
def historyLimit : Nat := 100

/-- The entries of an account that were recorded for a user, the newest first. -/
def history (tables : Tables) (user : UserId) (account : AccountId) : List LedgerEntry :=
  (tables.entries.reverse.filter fun entry => entry.account == account && entry.user == user).take
    historyLimit

/-! ### What a session sees

A session sees what it has written itself, and for the rest what is committed. -/

/-- The row of an account, closed or not. -/
def visibleAccount? (committed staged : Tables) (id : AccountId) : Option Account :=
  (staged.account? id).or (committed.account? id)

def visibleEntry? (committed staged : Tables) (id : TransactionId) : Option LedgerEntry :=
  (staged.entry? id).or (committed.entry? id)

/-- The entries of an account that were recorded for a user, the newest first. -/
def visibleHistory (committed staged : Tables) (user : UserId) (account : AccountId) :
    List LedgerEntry :=
  history ⟨[], committed.entries ++ staged.entries⟩ user account

end Tables

/-- Places at which the store can be made to fail once. -/
structure Faults where
  begin : Bool
  insert : Bool
  commit : Bool
deriving DecidableEq, Repr

def Faults.none : Faults := ⟨false, false, false⟩

end Passbook.Store

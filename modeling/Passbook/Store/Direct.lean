import Passbook.Store.Call
/-!
# Direct execution of store calls

The plainest store there is: it holds one copy of the tables, answers every call from it and applies
every write that succeeds to it at once.  It serves as the measure for sessions, which keep their writes
apart until they commit, and is written without the rules that they go by.
-/

namespace Passbook.Store

/-- The row of an account that is not closed. -/
def Tables.openAccount? (tables : Tables) (id : AccountId) : Option Account :=
  (tables.account? id).filter (·.deletedAt.isNone)

/-- Answer a call from a copy of the tables, at a time of the clock.  A history is the list of entries read
backwards, only those of the account and the user, and of them at most a hundred. -/
def Call.direct (tables : Tables) (now : Timestamp) :
    (call : Call) → Except LedgerError call.Answer × Tables
  | .account id | .accountForUpdate id =>
      match tables.openAccount? id with
      | some row => (.ok row, tables)
      | none => (.error (.ofStore (.recordNotFound s!"account {id}")), tables)
  | .accountIncludingClosed id =>
      match tables.account? id with
      | some row => (.ok row, tables)
      | none => (.error (.ofStore (.recordNotFound s!"account {id}")), tables)
  | .createAccount new =>
      match tables.account? new.id with
      | some _ => (.error (.ofStore (.duplicateKey s!"account {new.id}")), tables)
      | none => (.ok (), tables.putAccount new)
  | .updateAccount new =>
      match tables.openAccount? new.id with
      | some old =>
          if new.currency = old.currency ∧ new.owner = old.owner then
            (.ok (), tables.putAccount { old with balance := new.balance, updatedAt := new.updatedAt })
          else
            (.error (.ofStore (.constraintViolated s!"account {new.id}: owner and currency are immutable")), tables)
      | none => (.error (.ofStore (.recordNotFound s!"account {new.id}")), tables)
  | .deleteAccount id =>
      match tables.openAccount? id with
      | some old => (.ok (), tables.putAccount { old with updatedAt := now, deletedAt := some now })
      | none => (.error (.ofStore (.recordNotFound s!"account {id}")), tables)
  | .createEntry new =>
      match tables.account? new.account, tables.entry? new.id with
      | none, _ => (.error (.ofStore (.missingReference s!"account {new.account}")), tables)
      | some _, some _ => (.error (.ofStore (.duplicateKey s!"transaction {new.id}")), tables)
      | some _, none => (.ok (), tables.addEntry new)
  | .entry id =>
      match tables.entry? id with
      | some row => (.ok row, tables)
      | none => (.error (.ofStore (.recordNotFound s!"transaction {id}")), tables)
  | .history user id =>
      (.ok ((tables.entries.reverse.filter fun entry => entry.account == id && entry.user == user).take 100), tables)

end Passbook.Store

import Passbook.Proofs.Store.Tables
import Passbook.Store.Call
/-!
# What becomes of a row

The rules for store calls, read the other way round: what was there if a rule has let a write pass, and what
is written then.  All writes that the rules let pass leave a row what it is but for its balance and its
times, and a row that is closed they leave alone.
-/

namespace Passbook.Store

/-! ### Rules -/

theorem requireAccount_eq_ok {id : AccountId} {row : Option Account} {account : Account}
    (allowed : requireAccount id row = .ok account) : row = some account := by
  cases row with
  | none => cases allowed
  | some found =>
      cases allowed
      rfl

/-- Only a row that is not closed passes as live. -/
theorem requireLive_eq_ok {id : AccountId} {row : Option Account} {account : Account}
    (allowed : requireLive id row = .ok account) :
    row = some account ∧ account.isDeleted = false := by
  have found := requireAccount_eq_ok allowed
  rw [Option.filter_eq_some_iff] at found
  exact ⟨found.1, by simpa using found.2⟩

theorem newRow_eq_ok {account new : Account} {row : Option Account}
    (allowed : newRow account row = .ok new) : row = none ∧ new = account := by
  cases row with
  | none =>
      cases allowed
      exact ⟨rfl, rfl⟩
  | some found => cases allowed

/-- An update leaves all of a live row but its balance and the time of the change. -/
theorem updatedRow_eq_ok {account new : Account} {row : Option Account}
    (allowed : updatedRow account row = .ok new) :
    ∃ current, row = some current ∧ current.isDeleted = false ∧
      current.currency = account.currency ∧ current.owner = account.owner ∧
        new = ⟨account.id, current.owner, account.balance, current.createdAt, account.updatedAt, none⟩ := by
  unfold updatedRow at allowed
  cases live : requireLive account.id row with
  | error e =>
      rw [live] at allowed
      cases allowed
  | ok current =>
      obtain ⟨found, notClosed⟩ := requireLive_eq_ok live
      rw [live] at allowed
      simp only [bind, Except.bind] at allowed
      split at allowed
      · cases allowed
      · rename_i matching
        cases allowed
        rw [not_or, Decidable.not_not, Decidable.not_not] at matching
        exact ⟨current, found, notClosed, matching.1, matching.2, rfl⟩

/-- Closing leaves all of a live row but the times of change and closing. -/
theorem closedRow_eq_ok {id : AccountId} {now : Timestamp} {new : Account} {row : Option Account}
    (allowed : closedRow id now row = .ok new) :
    ∃ current, row = some current ∧ current.isDeleted = false ∧
      new = { current with id := id, updatedAt := now, deletedAt := some now } := by
  unfold closedRow at allowed
  cases live : requireLive id row with
  | error e =>
      rw [live] at allowed
      cases allowed
  | ok current =>
      obtain ⟨found, notClosed⟩ := requireLive_eq_ok live
      rw [live] at allowed
      cases allowed
      exact ⟨current, found, notClosed, rfl⟩

theorem requireReference_eq_ok {entry : LedgerEntry} {row : Option Account}
    (allowed : requireReference entry row = .ok ()) : ∃ account, row = some account := by
  cases row with
  | none => cases allowed
  | some account => exact ⟨account, rfl⟩

theorem requireFresh_eq_ok {entry : LedgerEntry} {row : Option LedgerEntry}
    (allowed : requireFresh entry row = .ok ()) : row = none := by
  cases row with
  | none => rfl
  | some found => cases allowed

/-! ### Continuation -/

/-- One account goes on as another: identifier, owner, currency and the time of opening stay what they are,
and an account that is closed goes on as itself. -/
structure GoesOnAs (old new : Account) : Prop where
  id : new.id = old.id
  owner : new.owner = old.owner
  currency : new.currency = old.currency
  createdAt : new.createdAt = old.createdAt
  closed : old.isDeleted = true → new = old

theorem GoesOnAs.refl (account : Account) : GoesOnAs account account := ⟨rfl, rfl, rfl, rfl, fun _ => rfl⟩

theorem GoesOnAs.trans {first second third : Account} (before : GoesOnAs first second)
    (after : GoesOnAs second third) : GoesOnAs first third where
  id := after.id.trans before.id
  owner := after.owner.trans before.owner
  currency := after.currency.trans before.currency
  createdAt := after.createdAt.trans before.createdAt
  closed := by
    intro closed
    have same := before.closed closed
    rw [after.closed (same.symm ▸ closed), same]

/-- A row stays where it is: an account that was there goes on as the one that is there. -/
def Continues (old new : Option Account) : Prop :=
  ∀ account, old = some account → ∃ account', new = some account' ∧ GoesOnAs account account'

theorem Continues.refl (row : Option Account) : Continues row row :=
  fun account found => ⟨account, found, .refl account⟩

theorem Continues.trans {first second third : Option Account} (before : Continues first second)
    (after : Continues second third) : Continues first third := by
  intro account found
  obtain ⟨middle, found', goesOn⟩ := before account found
  obtain ⟨last, found'', goesOn'⟩ := after middle found'
  exact ⟨last, found'', goesOn.trans goesOn'⟩

theorem Continues.of_none (row : Option Account) : Continues none row := by
  intro account found
  cases found

/-- A row of which it is said under which identifier it stands. -/
def Keyed (rows : AccountId → Option Account) : Prop :=
  ∀ id account, rows id = some account → account.id = id

/-- A new account goes on from nothing. -/
theorem Continues.newRow {account new : Account} {row : Option Account}
    (allowed : Store.newRow account row = .ok new) : Continues row (some new) := by
  rw [(newRow_eq_ok allowed).1]
  exact .of_none _

/-- An account goes on after an update. -/
theorem Continues.updatedRow {account new : Account} {row : Option Account}
    (keyed : ∀ current, row = some current → current.id = account.id)
    (allowed : Store.updatedRow account row = .ok new) : Continues row (some new) := by
  obtain ⟨current, found, live, currency, owner, rfl⟩ := updatedRow_eq_ok allowed
  rw [found]
  rintro _ ⟨rfl⟩
  refine ⟨_, rfl, (keyed current found).symm, rfl, ?_, rfl, ?_⟩
  · exact currency.symm
  · intro closed
    rw [live] at closed
    cases closed

/-- An account goes on after it was closed. -/
theorem Continues.closedRow {id : AccountId} {now : Timestamp} {new : Account} {row : Option Account}
    (keyed : ∀ current, row = some current → current.id = id)
    (allowed : Store.closedRow id now row = .ok new) : Continues row (some new) := by
  obtain ⟨current, found, live, rfl⟩ := closedRow_eq_ok allowed
  rw [found]
  rintro _ ⟨rfl⟩
  refine ⟨_, rfl, (keyed current found).symm, rfl, rfl, rfl, ?_⟩
  intro closed
  rw [live] at closed
  cases closed

/-- The rules write a row under the identifier they were asked for. -/
theorem id_of_newRow {account new : Account} {row : Option Account}
    (allowed : newRow account row = .ok new) : new.id = account.id := by
  rw [(newRow_eq_ok allowed).2]

theorem id_of_updatedRow {account new : Account} {row : Option Account}
    (allowed : updatedRow account row = .ok new) : new.id = account.id := by
  obtain ⟨_, _, _, _, _, rfl⟩ := updatedRow_eq_ok allowed
  rfl

theorem id_of_closedRow {id : AccountId} {now : Timestamp} {new : Account} {row : Option Account}
    (allowed : closedRow id now row = .ok new) : new.id = id := by
  obtain ⟨_, _, _, rfl⟩ := closedRow_eq_ok allowed
  rfl

end Passbook.Store

import Passbook.Proofs.Store.Tables
import Passbook.Store.Direct
/-!
# What is staged, seen on a copy

A session keeps the committed tables and what it has staged apart.  Put together they are a copy of the tables
to which every write was applied at once: a write to the staged tables is the same write to the copy, and what
the session sees is what the copy holds.
-/

namespace Passbook.Store

namespace Tables

variable {committed staged : Tables}

/-! ### Writes -/

/-- A row is replaced if there is one with its identifier. -/
private theorem accounts_putAccount_of_present {tables : Tables} {account : Account}
    (present : account.id ∈ tables.accounts.map (·.id)) :
    (tables.putAccount account).accounts =
      tables.accounts.map fun row => if row.id = account.id then account else row := by
  have here : tables.accounts.any (·.id == account.id) = true := by simpa using present
  simp [putAccount, here]

private theorem accounts_putAccount_of_absent {tables : Tables} {account : Account}
    (absent : account.id ∉ tables.accounts.map (·.id)) :
    (tables.putAccount account).accounts = tables.accounts ++ [account] := by
  have free : tables.accounts.any (·.id == account.id) = false := by simpa using absent
  simp [putAccount, free]

private theorem ids_replace (rows : List Account) (account : Account) :
    (rows.map fun row => if row.id = account.id then account else row).map (·.id) = rows.map (·.id) := by
  rw [List.map_map]
  apply List.map_congr_left
  intro row _
  by_cases replaced : row.id = account.id <;> simp [replaced]

/-- No identifier is lost by a write. -/
private theorem mem_ids_putAccount {tables : Tables} {account : Account} {id : AccountId} :
    id ∈ (tables.putAccount account).accounts.map (·.id) ↔
      id ∈ tables.accounts.map (·.id) ∨ id = account.id := by
  by_cases present : account.id ∈ tables.accounts.map (·.id)
  · rw [accounts_putAccount_of_present present, ids_replace]
    constructor
    · exact .inl
    · rintro (there | rfl)
      · exact there
      · exact present
  · simp [accounts_putAccount_of_absent present]

private theorem ext_accounts {one other : Tables} (accounts : one.accounts = other.accounts)
    (entries : one.entries = other.entries) : one = other := by
  cases one
  cases other
  cases accounts
  cases entries
  rfl

/-- To write a row over one that was just written is to write it in its place. -/
private theorem putAccount_putAccount (tables : Tables) {old new : Account} (same : old.id = new.id) :
    (tables.putAccount old).putAccount new = tables.putAccount new := by
  refine ext_accounts ?_ rfl
  rw [accounts_putAccount_of_present (mem_ids_putAccount.mpr (.inr same.symm))]
  by_cases present : new.id ∈ tables.accounts.map (·.id)
  · rw [accounts_putAccount_of_present present, accounts_putAccount_of_present (same ▸ present),
      List.map_map]
    apply List.map_congr_left
    intro row _
    by_cases replaced : row.id = new.id <;> simp [replaced, same]
  · rw [accounts_putAccount_of_absent present, accounts_putAccount_of_absent (same ▸ present),
      List.map_append]
    have unchanged : (tables.accounts.map fun row => if row.id = new.id then new else row) =
        tables.accounts := by
      conv => rhs; rw [← List.map_id tables.accounts]
      apply List.map_congr_left
      intro row member
      have different : row.id ≠ new.id := fun is => present (List.mem_map.mpr ⟨row, member, is⟩)
      simp [different]
    simp [unchanged, same]

/-- Rows with different identifiers are written in either order, if one of them is there already. -/
private theorem putAccount_comm {tables : Tables} {other new : Account} (different : other.id ≠ new.id)
    (present : new.id ∈ tables.accounts.map (·.id)) :
    (tables.putAccount other).putAccount new = (tables.putAccount new).putAccount other := by
  refine ext_accounts ?_ rfl
  rw [accounts_putAccount_of_present (mem_ids_putAccount.mpr (.inl present))]
  by_cases there : other.id ∈ tables.accounts.map (·.id)
  · rw [accounts_putAccount_of_present (mem_ids_putAccount.mpr (.inl there)),
      accounts_putAccount_of_present there, accounts_putAccount_of_present present, List.map_map,
      List.map_map]
    apply List.map_congr_left
    intro row _
    by_cases one : row.id = other.id
    · have notNew : row.id ≠ new.id := one ▸ different
      simp [one, different]
    · by_cases two : row.id = new.id <;> simp [one, two, Ne.symm different]
  · have still : other.id ∉ (tables.putAccount new).accounts.map (·.id) := by
      rw [mem_ids_putAccount]
      rintro (here | same)
      · exact there here
      · exact different same
    rw [accounts_putAccount_of_absent still, accounts_putAccount_of_absent there,
      accounts_putAccount_of_present present, List.map_append]
    simp [different]

private theorem foldl_putAccount_putAccount (rows : List Account) {new : Account}
    (different : ∀ row ∈ rows, row.id ≠ new.id) :
    ∀ tables : Tables, new.id ∈ tables.accounts.map (·.id) →
      (rows.foldl putAccount tables).putAccount new = rows.foldl putAccount (tables.putAccount new) := by
  induction rows with
  | nil => intros; rfl
  | cons head rest inductionHypothesis =>
      intro tables present
      rw [List.foldl_cons, List.foldl_cons,
        inductionHypothesis (fun row member => different row (List.mem_cons_of_mem _ member)) _
          (mem_ids_putAccount.mpr (.inl present)),
        putAccount_comm (different head (List.mem_cons_self ..)) present]

private theorem foldl_putAccount_replace (rows : List Account) {new : Account} :
    ∀ tables : Tables, (rows.map (·.id)).Nodup → new.id ∈ rows.map (·.id) →
      (rows.map fun row => if row.id = new.id then new else row).foldl putAccount tables =
        (rows.foldl putAccount tables).putAccount new := by
  induction rows with
  | nil =>
      intro tables _ present
      cases present
  | cons head rest inductionHypothesis =>
      intro tables distinct present
      rw [List.map_cons, List.nodup_cons] at distinct
      rw [List.map_cons, List.foldl_cons, List.foldl_cons]
      by_cases replaced : head.id = new.id
      · -- The row that is replaced comes first, and no other has its identifier.
        have different : ∀ row ∈ rest, row.id ≠ new.id := by
          intro row member same
          exact distinct.1 (List.mem_map.mpr ⟨row, member, same.trans replaced.symm⟩)
        have unchanged : (rest.map fun row => if row.id = new.id then new else row) = rest := by
          conv => rhs; rw [← List.map_id rest]
          apply List.map_congr_left
          intro row member
          simp [different row member]
        rw [if_pos replaced, unchanged, foldl_putAccount_putAccount rest different _
          (mem_ids_putAccount.mpr (.inr replaced.symm)), putAccount_putAccount _ replaced]
      · have later : new.id ∈ rest.map (·.id) := by
          rcases List.mem_cons.mp present with same | later
          · exact absurd same.symm replaced
          · exact later
        rw [if_neg replaced, inductionHypothesis _ distinct.2 later]

/-- To stage a row is to write it to the copy. -/
theorem extend_putAccount (distinct : staged.DistinctRows) (committed : Tables) (account : Account) :
    committed.extend (staged.putAccount account) = (committed.extend staged).putAccount account := by
  refine ext_accounts ?_ rfl
  by_cases present : account.id ∈ staged.accounts.map (·.id)
  · have written := foldl_putAccount_replace staged.accounts committed distinct present
    rw [← accounts_putAccount_of_present present] at written
    have accounts := congrArg Tables.accounts written
    exact accounts
  · have written : (staged.putAccount account).accounts.foldl putAccount committed =
        (staged.accounts.foldl putAccount committed).putAccount account := by
      rw [accounts_putAccount_of_absent present, List.foldl_append]
      rfl
    have accounts := congrArg Tables.accounts written
    exact accounts

/-- To stage an entry is to append it to the copy. -/
theorem extend_addEntry (committed staged : Tables) (entry : LedgerEntry) :
    committed.extend (staged.addEntry entry) = (committed.extend staged).addEntry entry :=
  ext_accounts rfl (List.append_assoc ..).symm

/-- A row that was not there is added when it is published. -/
theorem extend_of_new {account : Account} (absent : committed.account? account.id = none) :
    committed.extend (Tables.empty.putAccount account) =
      { committed with accounts := committed.accounts ++ [account] } := by
  rw [extend_putAccount .empty, extend_empty]
  refine ext_accounts (accounts_putAccount_of_absent ?_) rfl
  rintro present
  obtain ⟨row, member, same⟩ := List.mem_map.mp present
  exact List.find?_eq_none.mp absent row member (beq_iff_eq.mpr same)

/-- A row that was there is changed in its place, and no other is. -/
theorem extend_of_changed (distinct : committed.DistinctRows) {account : Account}
    (found : committed.account? account.id = some account) (change : Account → Account)
    (same : (change account).id = account.id) :
    committed.extend (Tables.empty.putAccount (change account)) =
      { committed with
        accounts := committed.accounts.map fun row =>
          if row.id = account.id then change row else row } := by
  rw [extend_putAccount .empty, extend_empty]
  refine ext_accounts ?_ rfl
  rw [accounts_putAccount_of_present (same ▸ List.mem_map.mpr ⟨account, mem_of_account? found, rfl⟩)]
  apply List.map_congr_left
  intro row member
  rw [same]
  split
  · rename_i replaced
    have here := distinct.account?_of_mem member
    rw [replaced, found] at here
    rw [Option.some.inj here]
  · rfl

/-! ### Views -/

/-- No staged entry has the identifier of a committed one. -/
def Apart (committed staged : Tables) : Prop := ∀ id ∈ staged.entryIds, id ∉ committed.entryIds

theorem Apart.empty (committed : Tables) : Apart committed .empty := nofun

/-- An entry whose identifier the session does not see may be staged. -/
theorem Apart.addEntry (apart : Apart committed staged) {entry : LedgerEntry}
    (unseen : visibleEntry? committed staged entry.id = none) :
    Apart committed (staged.addEntry entry) := by
  intro id member
  rw [entryIds_addEntry, List.mem_append, List.mem_singleton] at member
  rcases member with old | rfl
  · exact apart id old
  · exact entry?_eq_none_iff.mp (Option.or_eq_none_iff.mp unseen).2

/-- The session sees the rows of the copy. -/
theorem visibleAccount?_eq_extend (distinct : staged.DistinctRows) (committed : Tables)
    (id : AccountId) : visibleAccount? committed staged id = (committed.extend staged).account? id :=
  (account?_extend distinct committed id).symm

/-- It looks for an entry among its own first, the copy among the committed ones; they find the same. -/
theorem visibleEntry?_eq_extend (apart : Apart committed staged) (id : TransactionId) :
    visibleEntry? committed staged id = Tables.entry? (committed.extend staged) id := by
  rw [entry?_extend, visibleEntry?]
  by_cases own : id ∈ staged.entryIds
  · rw [entry?_eq_none_iff.mpr (apart id own), Option.or_none, Option.none_or]
  · rw [entry?_eq_none_iff.mpr own, Option.or_none, Option.none_or]

end Tables

/-! ### Calls by the rules -/

/-- What comes of a write: the tables after it, or why it is refused. -/
def Tables.applied (tables : Tables) (change : Except LedgerError Tables) : Except LedgerError Unit × Tables :=
  match change with
  | .ok after => (.ok (), after)
  | .error e => (.error e, tables)

theorem Tables.openAccount?_eq (tables : Tables) (id : AccountId) :
    tables.openAccount? id = (tables.account? id).filter (!·.isDeleted) := by
  have same : ∀ account : Account, account.deletedAt.isNone = !account.isDeleted := by
    intro account
    rw [Account.isDeleted, Option.not_isSome]
  simp only [Tables.openAccount?, same]

namespace Call

variable (tables : Tables) (now : Timestamp)

theorem direct_account (id : AccountId) :
    (account id).direct tables now = (requireLive id (tables.account? id), tables) := by
  rw [direct, requireLive, ← Tables.openAccount?_eq]
  cases tables.openAccount? id <;> rfl

theorem direct_accountForUpdate (id : AccountId) :
    (accountForUpdate id).direct tables now = (requireLive id (tables.account? id), tables) :=
  direct_account tables now id

theorem direct_accountIncludingClosed (id : AccountId) :
    (accountIncludingClosed id).direct tables now = (requireAccount id (tables.account? id), tables) := by
  rw [direct]
  cases tables.account? id <;> rfl

theorem direct_createAccount (new : Account) :
    (createAccount new).direct tables now =
      tables.applied ((newRow new (tables.account? new.id)).map tables.putAccount) := by
  rw [direct]
  cases tables.account? new.id <;> rfl

/-- An update that is allowed leaves the row as it was but for the balance and the time of the change. -/
theorem direct_updateAccount (new : Account) :
    (updateAccount new).direct tables now =
      tables.applied ((updatedRow new (tables.account? new.id)).map tables.putAccount) := by
  rw [direct, updatedRow, requireLive, ← Tables.openAccount?_eq]
  cases found : tables.openAccount? new.id with
  | none => rfl
  | some old =>
      rw [Tables.openAccount?_eq, Option.filter_eq_some_iff] at found
      have same : new.id = old.id := (Tables.id_of_account? found.1).symm
      have still : old.deletedAt = none := by simpa [Account.isDeleted] using found.2
      by_cases kept : new.currency = old.currency ∧ new.owner = old.owner
      · simp [requireAccount, kept, same, still, Tables.applied, Except.map, bind, Except.bind, pure, Except.pure]
      · have refused : old.currency ≠ new.currency ∨ old.owner ≠ new.owner := by
          rcases Decidable.not_and_iff_not_or_not.mp kept with other | other
          · exact .inl (Ne.symm other)
          · exact .inr (Ne.symm other)
        simp only [requireAccount, bind, Except.bind, if_neg kept, if_pos refused]
        rfl

theorem direct_deleteAccount (id : AccountId) :
    (deleteAccount id).direct tables now =
      tables.applied ((closedRow id now (tables.account? id)).map tables.putAccount) := by
  rw [direct, closedRow, requireLive, ← Tables.openAccount?_eq]
  cases found : tables.openAccount? id with
  | none => rfl
  | some old =>
      rw [Tables.openAccount?_eq, Option.filter_eq_some_iff] at found
      have same := Tables.id_of_account? found.1
      subst same
      rfl

theorem direct_createEntry (new : LedgerEntry) :
    (createEntry new).direct tables now =
      tables.applied (do
        requireReference new (tables.account? new.account)
        requireFresh new (tables.entry? new.id)
        return tables.addEntry new) := by
  rw [direct]
  cases tables.account? new.account with
  | none => rfl
  | some =>
      cases tables.entry? new.id <;> rfl

theorem direct_entry (id : TransactionId) :
    (entry id).direct tables now = (requireEntry id (tables.entry? id), tables) := by
  rw [direct]
  cases tables.entry? id <;> rfl

theorem direct_history (user : UserId) (id : AccountId) :
    (history user id).direct tables now = (.ok (tables.history user id), tables) := rfl

variable {tables now}

/-- A call that fails leaves the copy as it is. -/
theorem direct_snd_of_error {call : Call} {e : LedgerError} (failed : (call.direct tables now).1 = .error e) :
    (call.direct tables now).2 = tables := by
  have applied : ∀ {change : Except LedgerError Tables}, (tables.applied change).1 = .error e →
      (tables.applied change).2 = tables := by
    intro change failed
    cases change with
    | ok after => cases failed
    | error e => rfl
  cases call with
  | account id => rw [direct_account]
  | accountForUpdate id => rw [direct_accountForUpdate]
  | accountIncludingClosed id => rw [direct_accountIncludingClosed]
  | entry id => rw [direct_entry]
  | history user id => rw [direct_history]
  | createAccount new =>
      rw [direct_createAccount] at failed ⊢
      exact applied failed
  | updateAccount new =>
      rw [direct_updateAccount] at failed ⊢
      exact applied failed
  | deleteAccount id =>
      rw [direct_deleteAccount] at failed ⊢
      exact applied failed
  | createEntry new =>
      rw [direct_createEntry] at failed ⊢
      exact applied failed

end Call

end Passbook.Store

import Passbook.Store.Tables
/-!
# What writes do to what is found

Rows and entries are found by identifier.  The lemmas here say what is found after a row was written, an
entry appended, or a whole pair of tables published; nothing later unfolds how rows are laid out.
-/

namespace Passbook.Store.Tables

variable {tables written : Tables} {id : AccountId}

/-! ### Keys -/

section Keys

variable {ρ κ : Type} [BEq κ] [LawfulBEq κ] (key : ρ → κ) {rows : List ρ} {row other : ρ}

/-- Of rows whose keys are apart, each is the one found under its key. -/
theorem find?_of_nodup_map (distinct : (rows.map key).Nodup) (member : row ∈ rows) :
    rows.find? (key · == key row) = some row := by
  induction rows with
  | nil => cases member
  | cons head rest inductionHypothesis =>
      rw [List.map_cons, List.nodup_cons] at distinct
      rcases List.mem_cons.mp member with rfl | later
      · simp
      · have different : ¬key head = key row := fun same =>
          distinct.1 (same ▸ List.mem_map.mpr ⟨row, later, rfl⟩)
        simp [different, inductionHypothesis distinct.2 later]

/-- They are the same if their keys are. -/
theorem eq_of_nodup_map (distinct : (rows.map key).Nodup) (member : row ∈ rows) (member' : other ∈ rows)
    (same : key row = key other) : row = other := by
  have found := find?_of_nodup_map key distinct member
  rw [same, find?_of_nodup_map key distinct member'] at found
  exact (Option.some.inj found).symm

end Keys

/-! ### Rows -/

/-- A row stands under its own identifier. -/
theorem id_of_account? {account : Account} (found : tables.account? id = some account) :
    account.id = id := by
  simpa using List.find?_some found

/-- A row that is found is a row of the table. -/
theorem mem_of_account? {account : Account} (found : tables.account? id = some account) :
    account ∈ tables.accounts :=
  List.mem_of_find?_eq_some found

@[simp] theorem account?_empty (id : AccountId) : empty.account? id = none := rfl

private theorem find?_replace (rows : List Account) (account : Account) (id : AccountId) :
    (rows.map fun row => if row.id = account.id then account else row).find? (·.id == id) =
      if account.id = id ∧ ∃ row ∈ rows, row.id = account.id then some account
      else rows.find? (·.id == id) := by
  induction rows with
  | nil => simp
  | cons head rest ih =>
      rw [List.map_cons, List.find?_cons, List.find?_cons, ih]
      by_cases replaced : head.id = account.id
      · by_cases sought : account.id = id
        · simp [replaced, sought]
        · have passed : (account.id == id) = false := by simpa using sought
          simp [replaced, sought, passed]
      · by_cases sought : account.id = id
        · have passed : (head.id == id) = false := by simpa [← sought] using replaced
          simp [← sought, replaced, sought ▸ passed]
        · simp [replaced, sought]

/-- After a row was written it is found, and every other row is found as before. -/
theorem account?_putAccount (tables : Tables) (account : Account) (id : AccountId) :
    (tables.putAccount account).account? id =
      if account.id = id then some account else tables.account? id := by
  unfold account? putAccount
  split
  · rename_i present
    have replaces : ∃ row ∈ tables.accounts, row.id = account.id := by simpa using present
    simp only [find?_replace, replaces, and_true]
  · rename_i absent
    by_cases sought : account.id = id
    · have unfound : tables.accounts.find? (·.id == id) = none := by
        rw [List.find?_eq_none]
        intro row member same
        exact absent (List.any_eq_true.mpr ⟨row, member, by simpa [sought] using same⟩)
      simp [sought, unfound]
    · simp [sought]

@[simp] theorem account?_putAccount_self (tables : Tables) (account : Account) :
    (tables.putAccount account).account? account.id = some account := by
  simp [account?_putAccount]

theorem account?_putAccount_empty (account : Account) (id : AccountId) :
    (empty.putAccount account).account? id = if account.id = id then some account else none :=
  account?_putAccount .empty account id

@[simp] theorem account?_addEntry (tables : Tables) (entry : LedgerEntry) (id : AccountId) :
    (tables.addEntry entry).account? id = tables.account? id := rfl

def DistinctRows (tables : Tables) : Prop := (tables.accounts.map (·.id)).Nodup

theorem DistinctRows.empty : DistinctRows Tables.empty := List.nodup_nil

/-- Writing a row keeps identifiers apart. -/
theorem DistinctRows.putAccount (distinct : tables.DistinctRows) (account : Account) :
    (tables.putAccount account).DistinctRows := by
  unfold DistinctRows Tables.putAccount
  split
  · have sameIds :
        (tables.accounts.map fun row => if row.id = account.id then account else row).map (·.id) =
          tables.accounts.map (·.id) := by
      rw [List.map_map]
      apply List.map_congr_left
      intro row _
      by_cases same : row.id = account.id <;> simp [same]
    rw [sameIds]
    exact distinct
  · rename_i absent
    rw [List.map_append, List.nodup_append]
    refine ⟨distinct, by simp, ?_⟩
    intro old oldMember new newMember same
    obtain ⟨row, member, rfl⟩ := List.mem_map.mp oldMember
    have : new = account.id := by simpa using newMember
    exact absent (List.any_eq_true.mpr ⟨row, member, by simp [same, this]⟩)

theorem DistinctRows.addEntry (distinct : tables.DistinctRows) (entry : LedgerEntry) :
    (tables.addEntry entry).DistinctRows := distinct

/-- A row of tables whose identifiers are apart is the one found under its identifier. -/
theorem DistinctRows.account?_of_mem (distinct : tables.DistinctRows) {account : Account}
    (member : account ∈ tables.accounts) : tables.account? account.id = some account :=
  find?_of_nodup_map Account.id distinct member

/-! ### Entries -/

@[simp] theorem entries_putAccount (tables : Tables) (account : Account) :
    (tables.putAccount account).entries = tables.entries := rfl

@[simp] theorem entries_addEntry (tables : Tables) (entry : LedgerEntry) :
    (tables.addEntry entry).entries = tables.entries ++ [entry] := rfl

@[simp] theorem entry?_putAccount (tables : Tables) (account : Account) (id : TransactionId) :
    Tables.entry? (tables.putAccount account) id = tables.entry? id := rfl

def entryIds (tables : Tables) : List TransactionId := tables.entries.map (·.id)

@[simp] theorem entryIds_putAccount (tables : Tables) (account : Account) :
    (tables.putAccount account).entryIds = tables.entryIds := rfl

@[simp] theorem entryIds_addEntry (tables : Tables) (entry : LedgerEntry) :
    (tables.addEntry entry).entryIds = tables.entryIds ++ [entry.id] := by
  simp [entryIds, addEntry]

/-- An identifier is free as long as no entry has it. -/
theorem entry?_eq_none_iff {id : TransactionId} : tables.entry? id = none ↔ id ∉ tables.entryIds := by
  simp [ entry?, entryIds]

/-- An entry is found if no other has its identifier. -/
theorem entry?_of_mem (distinct : tables.entryIds.Nodup) {entry : LedgerEntry}
    (member : entry ∈ tables.entries) : tables.entry? entry.id = some entry :=
  find?_of_nodup_map LedgerEntry.id distinct member

/-! ### Published tables -/

@[simp] theorem entries_extend (tables written : Tables) :
    (tables.extend written).entries = tables.entries ++ written.entries := rfl

@[simp] theorem entryIds_extend (tables written : Tables) :
    (tables.extend written).entryIds = tables.entryIds ++ written.entryIds := by
  simp [entryIds]

/-- Publishing nothing changes nothing. -/
@[simp] theorem extend_empty (tables : Tables) : tables.extend empty = tables := by
  simp [extend, empty]

private theorem account?_foldl_putAccount (rows : List Account) (id : AccountId) :
    ∀ tables : Tables, (rows.map (·.id)).Nodup →
      (rows.foldl putAccount tables).account? id =
        (rows.find? (·.id == id)).or (tables.account? id) := by
  induction rows with
  | nil => intro tables _; rfl
  | cons head rest ih =>
      intro tables distinct
      rw [List.map_cons, List.nodup_cons] at distinct
      rw [List.foldl_cons, ih _ distinct.2, account?_putAccount]
      by_cases sought : head.id = id
      · have absent : rest.find? (·.id == id) = none := by
          rw [List.find?_eq_none]
          intro row member same
          have same' : row.id = head.id := (by simpa using same : row.id = id).trans sought.symm
          exact distinct.1 (same' ▸ List.mem_map.mpr ⟨row, member, rfl⟩)
        simp [sought, absent]
      · simp [sought]

/-- After tables were published their rows are found, and otherwise the rows there were before. -/
theorem account?_extend (distinct : written.DistinctRows) (tables : Tables) (id : AccountId) :
    (tables.extend written).account? id = (written.account? id).or (tables.account? id) :=
  account?_foldl_putAccount written.accounts id tables distinct

/-- A row that the published tables do not have is found as before. -/
theorem account?_extend_of_none (distinct : written.DistinctRows) (absent : written.account? id = none) :
    (tables.extend written).account? id = tables.account? id := by
  rw [account?_extend distinct, absent, Option.none_or]

/-- An entry is found among the old ones first. -/
theorem entry?_extend (tables written : Tables) (id : TransactionId) :
    Tables.entry? (tables.extend written) id = (tables.entry? id).or (written.entry? id) := by
  simp [ entry?]

private theorem DistinctRows.foldl_putAccount (rows : List Account) :
    ∀ tables : Tables, tables.DistinctRows → (rows.foldl Tables.putAccount tables).DistinctRows := by
  induction rows with
  | nil => intro tables distinct; exact distinct
  | cons head rest ih =>
      intro tables distinct
      exact ih _ (distinct.putAccount head)

/-- Publishing keeps identifiers apart. -/
theorem DistinctRows.extend (distinct : tables.DistinctRows) (written : Tables) :
    (tables.extend written).DistinctRows :=
  foldl_putAccount written.accounts tables distinct

/-! ### What a session sees -/

/-- What a session sees of a row depends on the committed row alone, once its own writes are given. -/
theorem visibleAccount?_congr {other staged : Tables} (same : other.account? id = tables.account? id) :
    visibleAccount? other staged id = visibleAccount? tables staged id := by
  rw [visibleAccount?, visibleAccount?, same]

theorem visibleEntry?_congr {other staged : Tables} {id : TransactionId}
    (same : other.entry? id = tables.entry? id) :
    visibleEntry? other staged id = visibleEntry? tables staged id := by
  rw [ visibleEntry?, visibleEntry?, same]

@[simp] theorem visibleAccount?_empty (tables : Tables) (id : AccountId) :
    visibleAccount? tables empty id = tables.account? id := rfl

@[simp] theorem visibleEntry?_empty (tables : Tables) (id : TransactionId) :
    visibleEntry? tables empty id = tables.entry? id := rfl

@[simp] theorem visibleHistory_empty (tables : Tables) (user : UserId) (account : AccountId) :
    visibleHistory tables empty user account = tables.history user account := by
  simp [visibleHistory, history, empty]

/-- A row that a session sees stands under its own identifier. -/
theorem id_of_visibleAccount? {staged : Tables} {account : Account}
    (found : visibleAccount? tables staged id = some account) : account.id = id := by
  rcases Option.or_eq_some_iff.mp found with inStaged | ⟨_, inCommitted⟩
  · exact id_of_account? inStaged
  · exact id_of_account? inCommitted

/-- A session sees a row that it has just written. -/
theorem visibleAccount?_putAccount (committed staged : Tables) (account : Account) (id : AccountId) :
    visibleAccount? committed (staged.putAccount account) id =
      if account.id = id then some account else visibleAccount? committed staged id := by
  by_cases same : account.id = id <;> simp [visibleAccount?, account?_putAccount, same]

end Passbook.Store.Tables

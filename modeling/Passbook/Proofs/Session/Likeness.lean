import Passbook.Proofs.Session.Discretion
/-!
# Tables that look alike to a user

Two pairs of tables look alike to a user if they have the same accounts and entries of the user's.  Whatever
else is in them, a session of the user that has staged nothing but the user's finds the same in both, or what
cannot be told apart; and when it publishes what it has staged, the tables still look alike.
-/

namespace Passbook.Session

open Store (Tables)

variable {user : UserId} {known : Prop} {fresh : Uuid → Prop} {one other staged : Tables}

/-! ### Alike -/

/-- An account of another is there, and open. -/
def OthersLive (user : UserId) (tables : Tables) (id : AccountId) : Prop :=
  ∃ account, tables.account? id = some account ∧ account.owner ≠ user ∧ account.isDeleted = false

/-- Two pairs of tables have the same accounts and the same entries of a user's, the entries in the same
order. -/
structure SameFor (user : UserId) (one other : Tables) : Prop where
  rows : ∀ id account, account.owner = user →
    (one.account? id = some account ↔ other.account? id = some account)
  entries : one.entries.filter (·.user == user) = other.entries.filter (·.user == user)

/-- They have the same identifiers of open accounts of others. -/
def AgreeOnLive (user : UserId) (one other : Tables) : Prop :=
  ∀ id, OthersLive user one id ↔ OthersLive user other id

/-- What others have does not stand under fresh identifiers, and no entry of theirs has the identifier of one
of the user's. -/
structure Reserved (user : UserId) (fresh : Uuid → Prop) (tables : Tables) : Prop where
  rows : ∀ id account, fresh id.uuid → tables.account? id = some account → account.owner = user
  entries : ∀ entry ∈ tables.entries, fresh entry.id.uuid → entry.user = user
  unmixed : ∀ entry ∈ tables.entries, ∀ entry' ∈ tables.entries, entry'.id = entry.id →
    entry.user = user → entry'.user = user

/-- Two pairs of tables look alike to a user; it may be known which accounts of others are open. -/
structure Alike (user : UserId) (known : Prop) (fresh : Uuid → Prop) (one other : Tables) : Prop where
  same : SameFor user one other
  live : known → AgreeOnLive user one other
  reserved : Reserved user fresh one
  reserved' : Reserved user fresh other

/-- A session has staged rows of the user's only, and entries of theirs under fresh identifiers. -/
structure StagedFor (user : UserId) (fresh : Uuid → Prop) (staged : Tables) : Prop where
  distinct : staged.DistinctRows
  rows : ∀ id account, staged.account? id = some account → account.owner = user
  entries : ∀ entry ∈ staged.entries, entry.user = user ∧ fresh entry.id.uuid

theorem StagedFor.empty (user : UserId) (fresh : Uuid → Prop) : StagedFor user fresh .empty where
  distinct := .empty
  rows := by
    intro id account found
    rw [Tables.account?_empty] at found
    cases found
  entries := by
    intro entry member
    cases member

theorem StagedFor.putAccount (own : StagedFor user fresh staged) {account : Account}
    (owner : account.owner = user) : StagedFor user fresh (staged.putAccount account) where
  distinct := own.distinct.putAccount account
  rows := by
    intro id found
    rw [Tables.account?_putAccount]
    split
    · rintro ⟨rfl⟩
      exact owner
    · exact own.rows id found
  entries := own.entries

theorem StagedFor.addEntry (own : StagedFor user fresh staged) {entry : LedgerEntry}
    (owner : entry.user = user) (isFresh : fresh entry.id.uuid) :
    StagedFor user fresh (staged.addEntry entry) where
  distinct := own.distinct.addEntry entry
  rows := own.rows
  entries := by
    intro found member
    rcases List.mem_append.mp member with old | new
    · exact own.entries found old
    · rw [List.mem_singleton.mp new]
      exact ⟨owner, isFresh⟩

/-! ### What a session sees -/

/-- A session finds the same account of the user's in both, or rows of others that it cannot tell apart. -/
theorem Alike.rows (alike : Alike user known fresh one other) (own : StagedFor user fresh staged)
    (id : AccountId) :
    (∃ account, account.id = id ∧ account.owner = user ∧
      Tables.visibleAccount? one staged id = some account ∧
        Tables.visibleAccount? other staged id = some account) ∨
      Indistinct user known (fresh id.uuid) (Tables.visibleAccount? one staged id)
        (Tables.visibleAccount? other staged id) := by
  cases mine : staged.account? id with
  | some account =>
      refine .inl ⟨account, Tables.id_of_account? mine, own.rows id account mine, ?_, ?_⟩ <;>
        simp [Tables.visibleAccount?, mine]
  | none =>
      simp only [Tables.visibleAccount?, mine, Option.none_or]
      by_cases owned : ∃ account, one.account? id = some account ∧ account.owner = user
      · obtain ⟨account, found, owner⟩ := owned
        exact .inl ⟨account, Tables.id_of_account? found, owner, found,
          (alike.same.rows id account owner).mp found⟩
      · have foreign : Foreign user (one.account? id) := fun account found owner =>
          owned ⟨account, found, owner⟩
        have foreign' : Foreign user (other.account? id) := fun account found owner =>
          owned ⟨account, (alike.same.rows id account owner).mpr found, owner⟩
        refine .inr ⟨foreign, foreign', ?_, ?_⟩
        · intro isKnown
          have live : ∀ {tables : Tables}, Foreign user (tables.account? id) →
              (isLive (tables.account? id) = true ↔ OthersLive user tables id) := by
            intro tables foreign
            cases found : tables.account? id with
            | none => simp [isLive, OthersLive, found]
            | some account =>
                have different : account.owner ≠ user := foreign account found
                simp [isLive, OthersLive, found, different]
          rw [Bool.eq_iff_iff, live foreign, live foreign']
          exact alike.live isKnown id
        · intro isFresh
          constructor
          · exact Option.eq_none_iff_forall_ne_some.mpr fun account found =>
              foreign account found (alike.reserved.rows id account isFresh found)
          · exact Option.eq_none_iff_forall_ne_some.mpr fun account found =>
              foreign' account found (alike.reserved'.rows id account isFresh found)

/-- Where one of the user's entries has an identifier, the entries of others play no part in finding it. -/
private theorem Reserved.entry?_eq_own {tables : Tables} (reserved : Reserved user fresh tables)
    {id : TransactionId} {entry : LedgerEntry} (member : entry ∈ tables.entries) (same : entry.id = id)
    (owner : entry.user = user) :
    tables.entry? id = (tables.entries.filter (·.user == user)).find? (·.id == id) := by
  have mine : tables.entries.filter (·.id == id) =
      (tables.entries.filter (·.user == user)).filter (·.id == id) := by
    rw [List.filter_filter]
    refine List.filter_congr fun found there => ?_
    by_cases named : found.id = id
    · simp [named, reserved.unmixed entry member found there (named.trans same.symm) owner]
    · simp [named]
  rw [Tables.entry?, ← List.head?_filter, mine, List.head?_filter]

/-- An entry of the user's is found in both tables if it is found in one. -/
private theorem Alike.entry?_of_own (alike : Alike user known fresh one other) {id : TransactionId}
    {entry : LedgerEntry} (found : one.entry? id = some entry) (owner : entry.user = user) :
    other.entry? id = some entry := by
  have member : entry ∈ one.entries := List.mem_of_find?_eq_some found
  have same : entry.id = id := by simpa using List.find?_some found
  have member' : entry ∈ other.entries := by
    have own : entry ∈ one.entries.filter (·.user == user) := List.mem_filter.mpr ⟨member, by simp [owner]⟩
    rw [alike.same.entries] at own
    exact (List.mem_filter.mp own).1
  rw [alike.reserved'.entry?_eq_own member' same owner, ← alike.same.entries,
    ← alike.reserved.entry?_eq_own member same owner, found]

theorem Alike.symm (alike : Alike user known fresh one other) : Alike user known fresh other one where
  same := ⟨fun id account owner => (alike.same.rows id account owner).symm, alike.same.entries.symm⟩
  live isKnown id := (alike.live isKnown id).symm
  reserved := alike.reserved'
  reserved' := alike.reserved

/-- A session finds the same entry of the user's in both, or entries of others. -/
theorem Alike.entries (alike : Alike user known fresh one other) (own : StagedFor user fresh staged)
    (id : TransactionId) :
    (∃ entry, entry.id = id ∧ entry.user = user ∧
      Tables.visibleEntry? one staged id = some entry ∧
        Tables.visibleEntry? other staged id = some entry) ∨
      IndistinctEntry user (fresh id.uuid) (Tables.visibleEntry? one staged id)
        (Tables.visibleEntry? other staged id) := by
  cases mine : staged.entry? id with
  | some entry =>
      refine .inl ⟨entry, by simpa using List.find?_some mine,
        (own.entries entry (List.mem_of_find?_eq_some mine)).1, ?_, ?_⟩ <;>
          simp [Tables.visibleEntry?, mine]
  | none =>
      simp only [Tables.visibleEntry?, mine, Option.none_or]
      by_cases owned : ∃ entry, one.entry? id = some entry ∧ entry.user = user
      · obtain ⟨entry, found, owner⟩ := owned
        exact .inl ⟨entry, by simpa using List.find?_some found, owner, found,
          alike.entry?_of_own found owner⟩
      · have foreign : ForeignEntry user (one.entry? id) := fun entry found owner =>
          owned ⟨entry, found, owner⟩
        have foreign' : ForeignEntry user (other.entry? id) := fun entry found owner =>
          owned ⟨entry, alike.symm.entry?_of_own found owner, owner⟩
        have absent : ∀ {tables : Tables}, Reserved user fresh tables →
            ForeignEntry user (tables.entry? id) → fresh id.uuid → tables.entry? id = none := by
          intro tables reserved foreign isFresh
          refine Option.eq_none_iff_forall_ne_some.mpr fun entry found => ?_
          have named : entry.id = id := by simpa using List.find?_some found
          exact foreign entry found
            (reserved.entries entry (List.mem_of_find?_eq_some found) (named ▸ isFresh))
        exact .inr ⟨foreign, foreign', fun isFresh =>
          ⟨absent alike.reserved foreign isFresh, absent alike.reserved' foreign' isFresh⟩⟩

/-- A session finds the same histories of the user's in both. -/
theorem Alike.history (alike : Alike user known fresh one other) (account : AccountId) :
    Tables.visibleHistory one staged user account = Tables.visibleHistory other staged user account := by
  have own : ∀ entries : List LedgerEntry,
      entries.reverse.filter (fun entry => entry.account == account && entry.user == user) =
        (entries.filter (·.user == user)).reverse.filter (·.account == account) := by
    intro entries
    rw [← List.filter_reverse, List.filter_filter]
  simp only [Tables.visibleHistory, Tables.history, own, List.filter_append, alike.same.entries]

/-! ### Publishing -/

section Extend

variable {tables : Tables}

/-- Whatever of others is open is so after rows of the user's were published over it, and nothing else is. -/
private theorem othersLive_extend (own : StagedFor user fresh staged) (id : AccountId) :
    OthersLive user (tables.extend staged) id ↔
      staged.account? id = none ∧ OthersLive user tables id := by
  simp only [OthersLive, Tables.account?_extend own.distinct]
  cases mine : staged.account? id with
  | none => simp
  | some account => simp [own.rows id account mine]

private theorem Reserved.extend (reserved : Reserved user fresh tables)
    (own : StagedFor user fresh staged) : Reserved user fresh (tables.extend staged) where
  rows := by
    intro id account isFresh found
    rw [Tables.account?_extend own.distinct] at found
    rcases Option.or_eq_some_iff.mp found with mine | ⟨_, old⟩
    · exact own.rows id account mine
    · exact reserved.rows id account isFresh old
  entries := by
    intro entry member isFresh
    rcases List.mem_append.mp member with old | new
    · exact reserved.entries entry old isFresh
    · exact (own.entries entry new).1
  unmixed := by
    intro entry member entry' member' same owner
    rcases List.mem_append.mp member' with old' | new'
    · rcases List.mem_append.mp member with old | new
      · exact reserved.unmixed entry old entry' old' same owner
      · exact reserved.entries entry' old' (same ▸ (own.entries entry new).2)
    · exact (own.entries entry' new').1

/-- Tables that look alike still do so when rows and entries of the user's have been published in both. -/
theorem Alike.extend (alike : Alike user known fresh one other) (own : StagedFor user fresh staged) :
    Alike user known fresh (one.extend staged) (other.extend staged) where
  same := by
    refine ⟨?_, ?_⟩
    · intro id account owner
      rw [Tables.account?_extend own.distinct, Tables.account?_extend own.distinct]
      cases staged.account? id with
      | none => exact alike.same.rows id account owner
      | some found => exact Iff.rfl
    · rw [Tables.entries_extend, Tables.entries_extend, List.filter_append, List.filter_append,
        alike.same.entries]
  live isKnown id := by
    rw [othersLive_extend own, othersLive_extend own, alike.live isKnown id]
  reserved := alike.reserved.extend own
  reserved' := alike.reserved'.extend own

end Extend

end Passbook.Session

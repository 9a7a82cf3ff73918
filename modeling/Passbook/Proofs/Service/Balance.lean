import Passbook.Proofs.Service.Effect
/-!
# Balances

The balance of an account is what its entries say: nothing at first, and after every entry the balance before
it plus the amount of the entry.  This is so in every state of the committed tables that operations side by
side can lead to, whatever becomes of each of them.
-/

namespace Passbook.Service

open Session (Reading Outcome)
open Store (Tables)

/-! ### Chains of entries -/

/-- Entries lead from one balance to another: each records the balance before it plus its own amount. -/
def Chained : Int → List LedgerEntry → Int → Prop
  | before, [], after => after = before
  | before, entry :: rest, after =>
      entry.balance.amount = before + entry.amount.amount ∧ Chained entry.balance.amount rest after

/-- The exact sum of the amounts of entries. -/
def total : List LedgerEntry → Int
  | [] => 0
  | entry :: rest => entry.amount.amount + total rest

namespace Chained

variable {before after : Int} {entries : List LedgerEntry}

/-- The balance at the end is the one at the beginning and the sum of all amounts. -/
theorem eq_add_total (chained : Chained before entries after) : after = before + total entries := by
  induction entries generalizing before with
  | nil =>
      rw [total, Int.add_zero]
      exact chained
  | cons entry rest inductionHypothesis =>
      obtain ⟨balance, chained⟩ := chained
      have sum := inductionHypothesis chained
      rw [total]
      omega

/-- One more entry leads on. -/
theorem snoc (chained : Chained before entries after) {entry : LedgerEntry}
    (balance : entry.balance.amount = after + entry.amount.amount) :
    Chained before (entries ++ [entry]) entry.balance.amount := by
  induction entries generalizing before with
  | nil =>
      cases chained
      exact ⟨balance, rfl⟩
  | cons head rest inductionHypothesis => exact ⟨chained.1, inductionHypothesis chained.2⟩

end Chained

/-! ### Balanced tables -/

/-- An account is what its entries say. -/
structure Consistent (tables : Tables) (account : Account) : Prop where
  notNegative : 0 ≤ account.balance.amount
  chained : Chained 0 (entriesOf tables account.id) account.balance.amount
  /-- Its entries are its owner's, in its currency, and record no balance below nothing. -/
  entries : ∀ entry ∈ entriesOf tables account.id,
    entry.user = account.owner ∧ entry.amount.currency = account.currency ∧
      entry.balance.currency = account.currency ∧ 0 ≤ entry.balance.amount
  closed : account.isDeleted = true → account.balance.amount = 0

/-- Tables in which every account is what its entries say, and every entry is that of an account. -/
structure Balanced (tables : Tables) : Prop where
  distinct : tables.DistinctRows
  accounts : ∀ id account, tables.account? id = some account → Consistent tables account
  known : ∀ entry ∈ tables.entries, ∃ account, tables.account? entry.account = some account

theorem balanced_empty : Balanced .empty where
  distinct := .empty
  accounts := by
    intro id account found
    cases found
  known := by
    intro entry member
    cases member

section Balanced

variable {tables after written : Tables} {new : Account}

/-- Tables stay balanced when one account is written that is what its entries say. -/
theorem Balanced.extend (balanced : Balanced tables) (apart : written.DistinctRows)
    (rows : ∀ id, written.account? id = if new.id = id then some new else none)
    (entries : ∀ entry ∈ written.entries, entry.account = new.id)
    (consistent : Consistent (tables.extend written) new) : Balanced (tables.extend written) where
  distinct := balanced.distinct.extend written
  accounts := by
    intro id account found
    rw [Tables.account?_extend apart, rows] at found
    split at found
    · cases found
      exact consistent
    · rename_i different
      rw [← Tables.id_of_account? found] at different
      have same : entriesOf (tables.extend written) account.id = entriesOf tables account.id :=
        entriesOf_extend_of_ne entries different
      obtain ⟨notNegative, chained, own, closed⟩ := balanced.accounts id account found
      rw [← same] at chained own
      exact ⟨notNegative, chained, own, closed⟩
  known := by
    intro entry member
    rw [Tables.account?_extend apart, rows]
    split
    · exact ⟨new, rfl⟩
    · rename_i different
      rcases List.mem_append.mp member with old | added
      · exact balanced.known entry old
      · exact absurd (entries entry added).symm different

/-- Every effect of an operation leaves the tables balanced. -/
theorem Effect.balanced {fresh : Uuid → Prop} (effect : Effect fresh tables after) (balanced : Balanced tables) :
    Balanced after := by
  cases effect with
  | nothing => exact balanced
  | opens account _ absent holdsNothing =>
      have none' : entriesOf (tables.extend (Tables.empty.putAccount account)) account.id = [] := by
        rw [entriesOf_extend_putAccount, entriesOf_eq_nil balanced.known absent]
      apply balanced.extend (.putAccount .empty account) (Tables.account?_putAccount_empty account)
      · intro entry member
        cases member
      · refine ⟨?_, ?_, ?_, fun _ => holdsNothing⟩
        · exact Int.le_of_eq holdsNothing.symm
        · rw [none', holdsNothing]
          rfl
        · rw [none']
          intro entry member
          cases member
  | moves account moved entry found records =>
      obtain ⟨notNegative, chained, own, _⟩ := balanced.accounts _ account found
      have more : entriesOf (tables.extend ((Tables.empty.putAccount moved).addEntry entry)) moved.id =
          entriesOf tables account.id ++ [entry] := by
        rw [entriesOf_extend, records.id]
        simp [entriesOf, Tables.empty, records.entryAccount]
      apply balanced.extend (.addEntry (.putAccount .empty moved) entry) (Tables.account?_putAccount_empty moved)
      · intro other member
        rw [List.mem_singleton.mp member, records.entryAccount, records.id]
      · refine ⟨records.enough notNegative, ?_, ?_, ?_⟩
        · rw [more, ← records.entryBalance]
          apply chained.snoc
          rw [records.entryBalance, records.sum]
        · rw [more, records.owner, records.currency]
          intro other member
          rcases List.mem_append.mp member with old | new
          · exact own other old
          · rw [List.mem_singleton.mp new, records.entryBalance]
            exact ⟨records.entryUser, records.entryCurrency, records.currency, records.enough notNegative⟩
        · intro closed
          rw [records.live] at closed
          cases closed
  | closes account closed found holdsNothing goesOn balance =>
      obtain ⟨notNegative, chained, own, _⟩ := balanced.accounts _ account found
      have same : entriesOf (tables.extend (Tables.empty.putAccount closed)) closed.id =
          entriesOf tables account.id := by
        rw [entriesOf_extend_putAccount, goesOn.id]
      apply balanced.extend (.putAccount .empty closed) (Tables.account?_putAccount_empty closed)
      · intro entry member
        cases member
      · constructor
        · rwa [balance]
        · rwa [same, balance]
        · rwa [same, goesOn.owner, goesOn.currency]
        · intro _
          rwa [balance]

end Balanced

/-! ### Balances after whatever happens -/

namespace Chronicle

/-- Operations that are carried out one after the other leave the tables balanced. -/
theorem Serially.balanced {chronicle : Chronicle} {start finish : Tables}
    {log : List (Nat × Outcome Answer)} (serially : chronicle.Serially start log finish)
    (balanced : Balanced start) : Balanced finish := by
  induction serially with
  | start => exact balanced
  | snoc _ carried _ inductionHypothesis =>
      obtain ⟨call, _, carried⟩ := Option.bind_eq_some_iff.mp carried
      exact (Operation.carryOut_effect (fun _ handedOut => handedOut) carried).balanced inductionHypothesis

/-- They record no two entries under one identifier. -/
theorem Serially.entryIds_nodup {chronicle : Chronicle} {start finish : Tables}
    {log : List (Nat × Outcome Answer)} (serially : chronicle.Serially start log finish)
    (distinct : start.entryIds.Nodup) : finish.entryIds.Nodup := by
  induction serially with
  | start => exact distinct
  | snoc _ carried _ inductionHypothesis =>
      obtain ⟨call, _, carried⟩ := Option.bind_eq_some_iff.mp carried
      exact (Operation.carryOut_effect (fun _ handedOut => handedOut) carried).entryIds_nodup
        inductionHypothesis

/-- After every history of events on a store that has begun empty, the balance of every account is the exact
sum of the amounts of its entries and not less than nothing.  Its entries, in the order in which they were
committed, lead from nothing to this balance, are its owner's, are in its currency and record no balance below
nothing; an account that is closed holds nothing.  No two accounts have one identifier, and every entry is
that of an account. -/
theorem balance_eq_total {defaultCurrency : Currency} {events : List Event}
    {finish : Chronicle} (ran : (Chronicle.start defaultCurrency .empty).run? events = some finish)
    (distinct : finish.freshIds.Nodup) :
    (∀ account ∈ finish.world.tables.accounts,
      0 ≤ account.balance.amount ∧
      account.balance.amount = total (entriesOf finish.world.tables account.id) ∧
      Chained 0 (entriesOf finish.world.tables account.id) account.balance.amount ∧
      (∀ entry ∈ entriesOf finish.world.tables account.id,
        entry.user = account.owner ∧ entry.amount.currency = account.currency ∧
          entry.balance.currency = account.currency ∧ 0 ≤ entry.balance.amount) ∧
      (account.isDeleted = true → account.balance.amount = 0)) ∧
    (finish.world.tables.accounts.map (·.id)).Nodup ∧
    ∀ entry ∈ finish.world.tables.entries,
      ∃ account ∈ finish.world.tables.accounts, account.id = entry.account := by
  obtain ⟨log, logged, _⟩ := exists_logged ran distinct
  have balanced : Balanced finish.world.tables := logged.serially.balanced balanced_empty
  refine ⟨?_, balanced.distinct, ?_⟩
  · intro account member
    have found := balanced.distinct.account?_of_mem member
    obtain ⟨notNegative, chained, own, closed⟩ := balanced.accounts _ account found
    have sum := chained.eq_add_total
    rw [Int.zero_add] at sum
    exact ⟨notNegative, sum, chained, own, closed⟩
  · intro entry member
    obtain ⟨account, found⟩ := balanced.known entry member
    exact ⟨account, Tables.mem_of_account? found, Tables.id_of_account? found⟩

/-- An account is opened, eight is put in, a deposit is cancelled while it waits for the account, and five
is taken out. -/
def savings : List Event :=
  let context := RequestContext.ofUser ⟨Uuid.ofNat 1⟩
  let move (direction : Direction) (amount : Money) : Operation :=
    .move direction (.internal ⟨Uuid.ofNat 2⟩ (.exact amount))
  let step (number : Nat) : Event :=
    .advanced number ⟨⟨0, 0⟩, Uuid.ofNat (number + 2), fun _ _ => .error .outOfRange⟩
  [.called context (.openAccount none)] ++ List.replicate 13 (step 0) ++
    [.called context (move .credit ⟨8, .eur, by decide, by decide⟩)] ++ List.replicate 5 (step 1) ++
      [.called context (move .credit ⟨8, .eur, by decide, by decide⟩)] ++ List.replicate 3 (step 2) ++
        [.cancelled 2] ++ List.replicate 14 (step 1) ++
          [.called context (move .debit ⟨5, .eur, by decide, by decide⟩)] ++ List.replicate 19 (step 3)

/-- Three is left, which is what the entries say. -/
theorem balance_eq_total_savings :
    ∃ finish, (Chronicle.start .eur .empty).run? savings = some finish ∧ finish.freshIds.Nodup ∧
      ∃ account ∈ finish.world.tables.accounts, account.balance.amount = 3 ∧
        total (entriesOf finish.world.tables account.id) = 3 ∧
          Chained 0 (entriesOf finish.world.tables account.id) 3 := by
  have ids : ((Chronicle.start .eur .empty).run? savings).map (·.freshIds) =
      some [Uuid.ofNat 2, Uuid.ofNat 3, Uuid.ofNat 5] := by
    decide +kernel
  obtain ⟨finish, ran, drawn⟩ := Option.map_eq_some_iff.mp ids
  have balances : ((Chronicle.start .eur .empty).run? savings).map
      (·.world.tables.accounts.map (·.balance.amount)) = some [3] := by
    decide +kernel
  rw [ran, Option.map_some, Option.some.injEq] at balances
  have member : 3 ∈ finish.world.tables.accounts.map (·.balance.amount) := by
    rw [balances]
    exact List.mem_singleton.mpr rfl
  obtain ⟨account, here, left⟩ := List.mem_map.mp member
  have apart : finish.freshIds.Nodup := drawn ▸ by decide
  obtain ⟨_, sum, chained, _⟩ := (balance_eq_total ran apart).1 account here
  rw [left] at sum chained
  exact ⟨finish, ran, apart, account, here, left, sum.symm, chained⟩

end Chronicle

end Passbook.Service

import Passbook.Proofs.Service.Balance
import Passbook.Proofs.Service.Closing
import Passbook.Proofs.Session.Looking
/-!
# Histories of accounts

What the owner of an account is shown: the newest of its entries, the newest first, as many as a history shows
at most.  From one to the next the balance goes back by the amount, from the balance of the account to
nothing before the first entry, and every entry that is shown can be looked at by itself.
-/

namespace Passbook

/-! ### Money -/

/-- A difference that is an amount of money is exact. -/
theorem Money.sub_eq {a b difference : Money} (sum : a.amount = difference.amount + b.amount)
    (same : b.currency = a.currency) (same' : difference.currency = a.currency) :
    a.sub b = .ok difference := by
  obtain ⟨amount, currency, least, greatest⟩ := difference
  have amount' : a.amount - b.amount = amount := by
    dsimp only at sum
    omega
  cases same'
  simp [sub, ensureSameCurrency, ofResult, ofMinor?, same, amount', least, greatest, bind, Except.bind]

namespace Service

open Session (World Task Outcome Surroundings)
open Store (Tables)

/-! ### Chains -/

/-- A chain of entries can be broken in two. -/
theorem Chained.of_append {before after : Int} {entries more : List LedgerEntry}
    (chained : Chained before (entries ++ more) after) :
    ∃ between, Chained before entries between ∧ Chained between more after := by
  induction entries generalizing before with
  | nil => exact ⟨before, rfl, chained⟩
  | cons entry rest inductionHypothesis =>
      obtain ⟨between, chained', chained''⟩ := inductionHypothesis chained.2
      exact ⟨between, ⟨chained.1, chained'⟩, chained''⟩

/-! ### The newest entries -/

/-- Entries are the newest of an account, with the newest first. -/
structure NewestFirst (tables : Tables) (account : Account) (items : List LedgerEntry) : Prop where
  length : items.length = min (entriesOf tables account.id).length 100
  /-- They are those that were committed last, in reverse order. -/
  newest : ∃ older, entriesOf tables account.id = older ++ items.reverse
  distinct : (items.map (·.id)).Nodup
  own : ∀ item ∈ items, item.account = account.id ∧ item.user = account.owner
  found : ∀ item ∈ items, tables.entry? item.id = some item
  /-- The newest records the balance of the account. -/
  balance : ∀ item rest, items = item :: rest → item.balance = account.balance
  /-- What each of them has changed leads back to the balance of the one before it. -/
  goesBack : ∀ newer item next rest, items = newer ++ item :: next :: rest →
    item.balance.sub item.amount = .ok next.balance
  /-- If all entries are shown, the first of them began with nothing. -/
  first : (entriesOf tables account.id).length ≤ 100 → ∀ newer item, items = newer ++ [item] →
    item.balance = item.amount

theorem mem_entriesOf {tables : Tables} {id : AccountId} {entry : LedgerEntry} :
    entry ∈ entriesOf tables id ↔ entry ∈ tables.entries ∧ entry.account = id := by
  simp [entriesOf]

namespace Consistent

variable {tables : Tables} {account : Account} {older newer : List LedgerEntry} {entry next : LedgerEntry}

/-- The entries of an account that lead to one of them leave its balance as it is recorded. -/
private theorem chained_to (consistent : Consistent tables account)
    (split : entriesOf tables account.id = older ++ entry :: newer) :
    ∃ before, Chained 0 older before ∧ entry.balance.amount = before + entry.amount.amount ∧
      Chained entry.balance.amount newer account.balance.amount := by
  have chained := consistent.chained
  rw [split] at chained
  obtain ⟨before, chained, sum, chained'⟩ := chained.of_append
  exact ⟨before, chained, sum, chained'⟩

theorem currencies (consistent : Consistent tables account) (member : entry ∈ entriesOf tables account.id) :
    entry.amount.currency = account.currency ∧ entry.balance.currency = account.currency := by
  obtain ⟨_, amount, balance, _⟩ := consistent.entries entry member
  exact ⟨amount, balance⟩

/-- The first entry of an account records what it has put in. -/
theorem first (consistent : Consistent tables account)
    (split : entriesOf tables account.id = entry :: newer) : entry.balance = entry.amount := by
  have chained := consistent.chained
  rw [split] at chained
  obtain ⟨sum, _⟩ := chained
  rw [Int.zero_add] at sum
  obtain ⟨amount, balance⟩ := consistent.currencies (split ▸ List.mem_cons_self)
  exact Money.eq_of_amount sum (balance.trans amount.symm)

/-- An entry leads from the balance of the one before it to its own. -/
theorem goesBack (consistent : Consistent tables account)
    (split : entriesOf tables account.id = older ++ entry :: next :: newer) :
    next.balance.sub next.amount = .ok entry.balance := by
  have member : entry ∈ entriesOf tables account.id := by simp [split]
  have member' : next ∈ entriesOf tables account.id := by simp [split]
  obtain ⟨_, _, _, sum, _⟩ := consistent.chained_to split
  obtain ⟨_, balance⟩ := consistent.currencies member
  obtain ⟨amount', balance'⟩ := consistent.currencies member'
  exact Money.sub_eq sum (amount'.trans balance'.symm) (balance.trans balance'.symm)

/-- The last entry of an account records its balance. -/
theorem last (consistent : Consistent tables account)
    (split : entriesOf tables account.id = older ++ [entry]) : entry.balance = account.balance := by
  have member : entry ∈ entriesOf tables account.id := by simp [split]
  obtain ⟨_, _, _, same⟩ := consistent.chained_to split
  exact Money.eq_of_amount same.symm (consistent.currencies member).2

/-- The history of an account, as long as all its entries are its owner's. -/
theorem history_eq (consistent : Consistent tables account) :
    tables.history account.owner account.id = (entriesOf tables account.id).reverse.take 100 := by
  rw [Tables.history_eq, List.filter_eq_self.mpr]
  · rfl
  · intro entry member
    simpa using (consistent.entries entry (List.mem_reverse.mp member)).1

/-- An account that is what its entries say has a history as it should be. -/
theorem newestFirst (consistent : Consistent tables account) (distinct : tables.entryIds.Nodup) :
    NewestFirst tables account (tables.history account.owner account.id) := by
  rw [consistent.history_eq]
  generalize shown : (entriesOf tables account.id).reverse.take 100 = items
  obtain ⟨older, split⟩ : ∃ older, entriesOf tables account.id = older ++ items.reverse := by
    refine ⟨((entriesOf tables account.id).reverse.drop 100).reverse, ?_⟩
    rw [← shown, ← List.reverse_append, List.take_append_drop, List.reverse_reverse]
  have length : items.length = min (entriesOf tables account.id).length 100 := by
    rw [← shown, List.length_take, List.length_reverse, Nat.min_comm]
  have member : ∀ item ∈ items, item ∈ entriesOf tables account.id := by
    intro item here
    rw [split]
    exact List.mem_append_right _ (List.mem_reverse.mpr here)
  refine ⟨length, ⟨older, split⟩, ?_, ?_, ?_, ?_, ?_, ?_⟩
  · have sublist : List.Sublist items.reverse tables.entries :=
      (split ▸ List.sublist_append_right older items.reverse).trans List.filter_sublist
    have distinct' : (items.reverse.map (·.id)).Nodup := distinct.sublist (sublist.map _)
    rwa [List.map_reverse, List.nodup_reverse] at distinct'
  · intro item here
    exact ⟨(mem_entriesOf.mp (member item here)).2, (consistent.entries item (member item here)).1⟩
  · intro item here
    exact Tables.entry?_of_mem distinct (mem_entriesOf.mp (member item here)).1
  · rintro item rest rfl
    rw [List.reverse_cons, ← List.append_assoc] at split
    exact consistent.last split
  · rintro newer item next rest rfl
    have split' : entriesOf tables account.id = (older ++ rest.reverse) ++ next :: item :: newer.reverse := by
      simp [split]
    exact consistent.goesBack split'
  · rintro few newer item rfl
    -- All entries are shown, so that none is older.
    have none : older = [] := by
      have total := congrArg List.length split
      rw [List.length_append, List.length_reverse, length] at total
      exact List.length_eq_zero_iff.mp (by omega)
    rw [none, List.reverse_append] at split
    exact consistent.first split

end Consistent

/-! ### Looking at a history -/

/-- The owner of an account sees its history by looking twice. -/
theorem Operation.history_sees {tables : Tables} {id : AccountId} {account : Account}
    (found : tables.account? id = some account) (defaultCurrency : Currency) :
    ((Operation.history id).task defaultCurrency account.owner).Sees tables 2
      (.history (tables.history account.owner id)) := by
  apply Task.Sees.readAccount
  have owned : account.isOwnedBy account.owner = true := by simp [Account.isOwnedBy]
  simp only [found, Store.requireAccount, Session.Work.bind, Session.Work.ofExcept, requireOwned, owned,
    if_true]
  exact .readHistory (.done _)

/-- Whoever an entry was recorded for sees it by looking once. -/
theorem Operation.transaction_sees {tables : Tables} {entry : LedgerEntry}
    (found : tables.entry? entry.id = some entry) (defaultCurrency : Currency) :
    ((Operation.transaction entry.id).task defaultCurrency entry.user).Sees tables 1 (.entry entry) := by
  apply Task.Sees.readEntry
  simp only [found, Store.requireEntry, Session.Work.bind, if_true]
  exact .done _

namespace Chronicle

variable {chronicle finish : Chronicle} {context : RequestContext} {operation : Operation}

/-- The outcome of the operation of a session. -/
def HasOutcome (chronicle : Chronicle) (number : Nat) (outcome : Outcome Answer) : Prop :=
  ∃ session, chronicle.world.sessions[number]? = some session ∧ session.phase.outcome = some outcome

/-- An operation that is called now returns an answer by so many steps of its own, whatever its surroundings
answer and whatever others have begun, and leaves the committed tables as they are. -/
def Returns (chronicle : Chronicle) (context : RequestContext) (operation : Operation) (steps : Nat)
    (answer : Answer) : Prop :=
  ∀ arounds : List Surroundings, arounds.length = steps →
    ∃ finish, (chronicle.call context operation).run? (arounds.map (.advanced chronicle.calls.length)) =
        some finish ∧
      (∃ session, finish.world.sessions[chronicle.calls.length]? = some session ∧
        session.phase = .finished (.completed answer)) ∧
      finish.world.tables = chronicle.world.tables

/-- Nothing hinders an operation that is called now: its time is not over, and no fault is armed that would
hit it. -/
structure Unhindered (chronicle : Chronicle) (context : RequestContext) : Prop where
  inTime : context.isExpired chronicle.world.clock = false
  noBegin : chronicle.world.faults.begin = false
  noCommit : chronicle.world.faults.commit = false

/-- An operation that only looks returns what it sees. -/
theorem Regular.returns (regular : chronicle.Regular) (unhindered : chronicle.Unhindered context)
    (checked : operation.check = .ok ()) {looks : Nat} {answer : Answer}
    (sees : (operation.task chronicle.defaultCurrency context.user).Sees chronicle.world.tables looks
      answer) :
    chronicle.Returns context operation (looks + 6) answer := by
  intro arounds length
  have world : (chronicle.call context operation).world = chronicle.world.call context chronicle.world.clock
      (operation.work chronicle.defaultCurrency context.user) := by
    simp only [call, checked]
  have ran := World.run?_looking sees unhindered.inTime unhindered.noBegin unhindered.noCommit length
  rw [← world, regular.length] at ran
  obtain ⟨finish, ran, reached⟩ := run?_advanced ran
  refine ⟨finish, ran, ⟨.looking context chronicle.world.clock (.finished (.completed answer)), ?_, rfl⟩, ?_⟩
  · rw [reached, ← regular.length]
    exact List.getElem?_concat_length
  · rw [reached]
    rfl

/-! ### What an operation has seen -/

/-- An operation that is not broken off yields what it sees of the tables that are committed from when it is
called. -/
theorem Regular.yields_of_hasOutcome (regular : chronicle.Regular) (checked : operation.check = .ok ())
    {later : List Event} (ran : chronicle.run? (.called context operation :: later) = some finish)
    {outcome : Outcome Answer} (comes : finish.HasOutcome chronicle.calls.length outcome)
    (whole : ¬outcome.BrokenOff) :
    ∃ result committed staged, outcome = .ofResult result ∧
      operation.Yields (chronicle.Passes (.called context operation :: later)) anyId finish.defaultCurrency
        context.user committed result staged := by
  have assures := regular.assures_of_passes (fun _ passes => passes) ran
    (fun _ late => chronicle.assures_of_uncalled _ _ late) chronicle.calls.length (Nat.le_refl _)
  have called : finish.calls[chronicle.calls.length]? = some (context.user, operation) := by
    have ran' : (chronicle.call context operation).run? later = some finish := ran
    exact (Leads.of_foldlM ran').invariant
      (motive := fun after => after.calls[chronicle.calls.length]? = some (context.user, operation))
      List.getElem?_concat_length fun called happened => called_after? happened called
  obtain ⟨session, known, decided⟩ := comes
  cases assures.outcome_meets called checked known decided with
  | completed meets | failed meets =>
      obtain ⟨committed, staged, _, yields⟩ := meets
      exact ⟨_, committed, staged, rfl, yields⟩
  | brokenOff off => exact absurd off whole

/-- On a store that has begun empty every account that is there has a history as it should be. -/
theorem newestFirst_of_run? {defaultCurrency : Currency} {events : List Event}
    (ran : (Chronicle.start defaultCurrency .empty).run? events = some finish)
    (distinct : finish.freshIds.Nodup) {id : AccountId} {account : Account}
    (found : finish.world.tables.account? id = some account) :
    NewestFirst finish.world.tables account (finish.world.tables.history account.owner id) := by
  obtain ⟨log, logged, _⟩ := exists_logged ran distinct
  have consistent := (logged.serially.balanced balanced_empty).accounts id account found
  rw [← Tables.id_of_account? found]
  exact consistent.newestFirst (logged.serially.entryIds_nodup List.nodup_nil)

/-- A call of the owner for the history that is not broken off shows it as it should be for the tables that were
committed at some time from when it was called. -/
theorem history_of_called {defaultCurrency : Currency} {earlier later : List Event} {mid finish : Chronicle}
    (reached : (Chronicle.start defaultCurrency .empty).run? earlier = some mid) {id : AccountId}
    {account : Account} (found : mid.world.tables.account? id = some account) {context : RequestContext}
    (owner : context.user = account.owner)
    (ran : mid.run? (.called context (.history id) :: later) = some finish)
    (distinct : finish.freshIds.Nodup) {outcome : Outcome Answer}
    (comes : finish.HasOutcome mid.calls.length outcome) (whole : ¬outcome.BrokenOff) :
    ∃ tables account', mid.Passes (.called context (.history id) :: later) tables ∧
      tables.account? id = some account' ∧
      NewestFirst tables account' (tables.history account.owner id) ∧
      outcome = .completed (.history (tables.history account.owner id)) := by
  have regular : mid.Regular := (Regular.start defaultCurrency .empty).run? reached
  obtain ⟨result, committed, staged, rfl, yields⟩ := regular.yields_of_hasOutcome rfl ran comes whole
  -- The account is there at all times, and its owner stays the same.
  have goesOn : ∀ {tables : Tables}, mid.Passes (.called context (.history id) :: later) tables →
      ∃ account', tables.account? id = some account' ∧ account'.owner = account.owner := by
    intro tables passes
    obtain ⟨account', found', goesOn⟩ := (regular.evolves_of_passes passes).rows id account found
    exact ⟨account', found', goesOn.owner⟩
  obtain ⟨tables, passes, rfl⟩ := yields.history_of_owned fun seen passes => by
    obtain ⟨account', found', same⟩ := goesOn passes
    exact ⟨account', found', same.trans owner.symm⟩
  obtain ⟨account', found', same⟩ := goesOn passes
  refine ⟨tables, account', passes, found', ?_, by rw [owner]; rfl⟩
  obtain ⟨before, after, moment, split, reached', rfl⟩ := passes
  rw [split, run?_append, reached', Option.bind_some] at ran
  have reached'' : (Chronicle.start defaultCurrency .empty).run? (earlier ++ before) = some moment := by
    rw [run?_append, reached, Option.bind_some, reached']
  rw [← same]
  exact newestFirst_of_run? reached'' (nodup_freshIds_of_run? ran distinct) found'

/-- An entry that is there is shown to its owner by every later call for it that is not broken off. -/
theorem Regular.entry_of_called {mid finish : Chronicle} (regular : mid.Regular) {item : LedgerEntry}
    (found : mid.world.tables.entry? item.id = some item) {context : RequestContext}
    (owner : context.user = item.user) {later : List Event}
    (ran : mid.run? (.called context (.transaction item.id) :: later) = some finish)
    {outcome : Outcome Answer} (comes : finish.HasOutcome mid.calls.length outcome)
    (whole : ¬outcome.BrokenOff) : outcome = .completed (.entry item) := by
  obtain ⟨result, committed, staged, rfl, yields⟩ := regular.yields_of_hasOutcome rfl ran comes whole
  rw [owner] at yields
  rw [yields.transaction_of_own fun seen passes =>
    Tables.entry?_of_prefix found (regular.evolves_of_passes passes).entries]
  rfl

/-- The history of an account, at any time of a store that has begun empty, however operations went side by
side and whatever became of them:

1. It shows the newest entries of the account, the newest first.
2. Its owner is returned just that when nothing hinders the call, and each entry of it when it is looked at by
   itself, even while others have locked the account and are about to change it.
3. When others go on meanwhile, a call that is not broken off shows the history as it should be for the tables
   that were committed at some time from when it was called.
4. An entry that the history shows is shown to the owner whenever it is looked at from then on. -/
theorem history_newest_first {defaultCurrency : Currency} {earlier : List Event} {mid : Chronicle}
    (reached : (Chronicle.start defaultCurrency .empty).run? earlier = some mid)
    (distinct : mid.freshIds.Nodup) {id : AccountId} {account : Account}
    (found : mid.world.tables.account? id = some account) {context : RequestContext}
    (owner : context.user = account.owner) :
    NewestFirst mid.world.tables account (mid.world.tables.history account.owner id) ∧
    (mid.Unhindered context →
      mid.Returns context (.history id) 8 (.history (mid.world.tables.history account.owner id)) ∧
      ∀ item ∈ mid.world.tables.history account.owner id,
        mid.Returns context (.transaction item.id) 7 (.entry item)) ∧
    (∀ (later : List Event) (finish : Chronicle) (outcome : Outcome Answer),
      mid.run? (.called context (.history id) :: later) = some finish → finish.freshIds.Nodup →
      finish.HasOutcome mid.calls.length outcome → ¬outcome.BrokenOff →
        ∃ tables account', mid.Passes (.called context (.history id) :: later) tables ∧
          tables.account? id = some account' ∧
          NewestFirst tables account' (tables.history account.owner id) ∧
          outcome = .completed (.history (tables.history account.owner id))) ∧
    ∀ item ∈ mid.world.tables.history account.owner id,
      ∀ (later : List Event) (finish : Chronicle) (outcome : Outcome Answer),
        mid.run? (.called context (.transaction item.id) :: later) = some finish →
        finish.HasOutcome mid.calls.length outcome → ¬outcome.BrokenOff →
          outcome = .completed (.entry item) := by
  have regular : mid.Regular := (Regular.start defaultCurrency .empty).run? reached
  have newest := newestFirst_of_run? reached distinct found
  refine ⟨newest, ?_, ?_, ?_⟩
  · intro unhindered
    constructor
    · refine regular.returns unhindered rfl ?_
      rw [owner]
      exact Operation.history_sees found _
    · intro item shown
      refine regular.returns unhindered rfl ?_
      rw [owner, ← (newest.own item shown).2]
      exact Operation.transaction_sees (newest.found item shown) _
  · intro later finish outcome ran distinct' comes whole
    exact history_of_called reached found owner ran distinct' comes whole
  · intro item shown later finish outcome ran comes whole
    exact regular.entry_of_called (newest.found item shown) (owner.trans (newest.own item shown).2.symm) ran
      comes whole

/-- The owner of the savings asks for their history, and twelve more is put in meanwhile. -/
def inquiry : List Event :=
  let context := RequestContext.ofUser ⟨Uuid.ofNat 1⟩
  let deposit : Operation :=
    .move .credit (.internal ⟨Uuid.ofNat 2⟩ (.exact ⟨12, .eur, by decide, by decide⟩))
  let step (number : Nat) : Event :=
    .advanced number ⟨⟨0, 0⟩, Uuid.ofNat (number + 2), fun _ _ => .error .outOfRange⟩
  [.called context (.history ⟨Uuid.ofNat 2⟩)] ++ List.replicate 2 (step 4) ++ [.called context deposit] ++
    List.replicate 19 (step 5) ++ List.replicate 6 (step 4)

/-- Asked for by itself, the history shows two entries, and three when the deposit comes in between. -/
theorem history_newest_first_savings :
    ∃ mid finish account tables, (Chronicle.start .eur .empty).run? savings = some mid ∧
      mid.world.tables.account? ⟨Uuid.ofNat 2⟩ = some account ∧
      (mid.world.tables.history account.owner ⟨Uuid.ofNat 2⟩).map (·.balance.amount) = [3, 8] ∧
      mid.Returns (.ofUser ⟨Uuid.ofNat 1⟩) (.history ⟨Uuid.ofNat 2⟩) 8
        (.history (mid.world.tables.history account.owner ⟨Uuid.ofNat 2⟩)) ∧
      mid.run? inquiry = some finish ∧ mid.Passes inquiry tables ∧
      (tables.history account.owner ⟨Uuid.ofNat 2⟩).map (·.balance.amount) = [15, 3, 8] ∧
      finish.HasOutcome 4 (.completed (.history (tables.history account.owner ⟨Uuid.ofNat 2⟩))) := by
  have saved : ((Chronicle.start .eur .empty).run? savings).map (fun mid =>
      (mid.freshIds, mid.calls.length, mid.world.faults)) =
        some ([Uuid.ofNat 2, Uuid.ofNat 3, Uuid.ofNat 5], 4, .none) := by
    decide +kernel
  have here : ((Chronicle.start .eur .empty).run? savings).map (fun mid =>
      ((mid.world.tables.account? ⟨Uuid.ofNat 2⟩).map (·.owner),
        (mid.world.tables.history ⟨Uuid.ofNat 1⟩ ⟨Uuid.ofNat 2⟩).map (·.balance.amount))) =
          some (some ⟨Uuid.ofNat 1⟩, [3, 8]) := by
    decide +kernel
  have asked : (((Chronicle.start .eur .empty).run? savings).bind (·.run? inquiry)).map (fun finish =>
      (finish.freshIds, ((finish.world.sessions[4]?.bind (·.phase.outcome)).bind (·.value?)).map fun answer =>
        match answer with
        | .history items => items.map (·.balance.amount)
        | _ => [])) =
          some ([Uuid.ofNat 2, Uuid.ofNat 3, Uuid.ofNat 5, Uuid.ofNat 7], some [15, 3, 8]) := by
    decide +kernel
  obtain ⟨mid, reached, saved⟩ := Option.map_eq_some_iff.mp saved
  simp only [Prod.mk.injEq] at saved
  obtain ⟨drawn, length, faults⟩ := saved
  rw [reached, Option.map_some, Option.some.injEq, Prod.mk.injEq] at here
  obtain ⟨owned, shown⟩ := here
  obtain ⟨account, found, owned⟩ := Option.map_eq_some_iff.mp owned
  rw [reached, Option.bind_some] at asked
  obtain ⟨finish, ran, there⟩ := Option.map_eq_some_iff.mp asked
  obtain ⟨drawn', answered⟩ := Prod.mk.inj there
  obtain ⟨answer, answered, balances⟩ := Option.map_eq_some_iff.mp answered
  obtain ⟨outcome, comes, completed⟩ := Option.bind_eq_some_iff.mp answered
  obtain ⟨session, known, decided⟩ := Option.bind_eq_some_iff.mp comes
  cases Outcome.value?_eq_some_iff.mp completed
  have apart : mid.freshIds.Nodup := drawn ▸ by decide
  have apart' : finish.freshIds.Nodup := drawn' ▸ by decide
  have owner : (RequestContext.ofUser ⟨Uuid.ofNat 1⟩).user = account.owner := owned.symm
  obtain ⟨_, alone, meanwhile, _⟩ := history_newest_first reached apart found owner
  have unhindered : mid.Unhindered (.ofUser ⟨Uuid.ofNat 1⟩) :=
    ⟨rfl, congrArg (·.begin) faults, congrArg (·.commit) faults⟩
  have whole : ¬(Outcome.completed answer).BrokenOff := by
    rintro (off | off | ⟨_, off⟩) <;> cases off
  obtain ⟨tables, _, passes, _, _, same⟩ :=
    meanwhile _ finish _ ran apart' ⟨session, length ▸ known, decided⟩ whole
  cases same
  exact ⟨mid, finish, account, tables, reached, found, owned ▸ shown, (alone unhindered).1, ran, passes,
    balances, session, known, decided⟩

end Chronicle

end Service

end Passbook

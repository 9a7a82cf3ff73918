import Passbook.Proofs.Service.Publication
import Passbook.Proofs.Session.Punctuality
/-!
# Timelines

The entries of an account bear their times in the order in which they were committed, as long as the clock
never goes back: whoever moves funds looks at the clock once the account is locked, and whoever comes next has
to wait until this is committed.  So it makes no difference whether a history is ordered by commits or by
times.
-/

namespace Passbook.Service

open Session (Knowledge Reading Work Comes NotBack World)
open Store (Tables)

/-! ### Operations are punctual -/

section Operations

variable {knowledge : Knowledge} {β : Type}

theorem settled_punctual (result : Except LedgerError β) :
    (Work.ofExcept result : Work Empty β).Punctual (fun _ _ => True) knowledge := by
  cases result <;> trivial

/-- A new account is opened at a time that was told before. -/
theorem openWork_punctual (user : UserId) (currency : Currency) :
    (openWork user currency : Work Empty Account).Punctual (fun _ _ => True) knowledge := by
  apply Work.Punctual.freshId
  intro id
  apply Work.Punctual.clock
  intro time
  exact .ask (.inl rfl) fun _ _ => trivial

theorem closeWork_punctual (user : UserId) (id : AccountId) :
    (closeWork user id : Work Empty Unit).Punctual (fun _ _ => True) knowledge := by
  refine .ask trivial fun account _ => ?_
  apply Work.Punctual.ofExcept
  intro _ _
  apply Work.Punctual.clock
  intro time
  apply Work.Punctual.ofExcept
  intro _ _
  exact ⟨trivial, fun answer _ => settled_punctual answer⟩

/-- Nothing is learned from a conversion, however long it takes. -/
theorem convertWork_punctual (amount : Money) (target : Currency) {post : β → Knowledge → Prop}
    {f : Money × Option ConversionInfo → Work Empty β}
    (punctual : ∀ applied, (f applied).Punctual post knowledge) :
    (convertWork amount target >>= f).Punctual post knowledge := by
  rcases convertWork_cases amount target with same | ⟨come, same⟩
  · rw [same]
    exact punctual _
  · rw [same]
    exact fun answer => .ofExcept fun applied _ => punctual applied

/-- Funds are moved at a time that was told when the account was locked and the amount converted. -/
theorem moveWork_punctual (user : UserId) (direction : Direction) (request : MovementRequest) :
    (moveWork user direction request : Work Empty LedgerEntry).Punctual (fun _ _ => True) knowledge := by
  refine .ask trivial fun account key => ?_
  apply Work.Punctual.ofExcept
  intro _ _
  apply Work.Punctual.ofExcept
  intro amount _
  apply convertWork_punctual amount account.currency
  rintro ⟨applied, conversion⟩
  apply Work.Punctual.clock
  intro time
  apply Work.Punctual.ofExcept
  rintro ⟨moved, signed⟩ movement
  obtain ⟨balance, rfl, _⟩ := applyMovement_eq_ok movement
  refine .ask (.inl ⟨rfl, .inl key⟩) fun _ _ => ?_
  apply Work.Punctual.freshId
  intro id
  apply Work.Punctual.ofExcept
  intro entry _
  exact .ask trivial fun _ _ => trivial

theorem accountWork_punctual (user : UserId) (id : AccountId) :
    (accountWork user id : Work Empty Account).Punctual (fun _ _ => True) knowledge :=
  .ask trivial fun _ _ => settled_punctual _

theorem historyWork_punctual (user : UserId) (id : AccountId) :
    (historyWork user id : Work Empty (List LedgerEntry)).Punctual (fun _ _ => True) knowledge := by
  refine .ask trivial fun account _ => ?_
  apply Work.Punctual.ofExcept
  intro _ _
  exact ⟨trivial, fun answer _ => settled_punctual answer⟩

theorem transactionWork_punctual (user : UserId) (id : TransactionId) :
    (transactionWork user id : Work Empty LedgerEntry).Punctual (fun _ _ => True) knowledge := by
  refine .ask trivial fun entry _ => ?_
  split <;> trivial

/-- Every operation is punctual from the beginning. -/
theorem Operation.task_punctual (operation : Operation) (defaultCurrency : Currency) (user : UserId) :
    (operation.task defaultCurrency user).Punctual knowledge := by
  cases operation with
  | openAccount currency => exact (Work.Punctual.map (openWork_punctual user _)).task
  | move direction request => exact (Work.Punctual.map (moveWork_punctual user direction request)).task
  | closeAccount id => exact (Work.Punctual.map (closeWork_punctual user id)).task
  | account id | balance id => exact (Work.Punctual.map (accountWork_punctual user id)).task
  | history id => exact (Work.Punctual.map (historyWork_punctual user id)).task
  | transaction id => exact (Work.Punctual.map (transactionWork_punctual user id)).task

end Operations

/-! ### Entries in order of time -/

/-- The entries of an account lie between its opening and its last change, and none is earlier than one that
was committed before it. -/
structure InTime (account : Account) (entries : List LedgerEntry) : Prop where
  opened : account.createdAt.le account.updatedAt = true
  ordered : entries.Pairwise fun earlier later => earlier.createdAt.le later.createdAt = true
  between : ∀ entry ∈ entries,
    account.createdAt.le entry.createdAt = true ∧ entry.createdAt.le account.updatedAt = true

namespace InTime

variable {account later : Account} {entries : List LedgerEntry}

/-- An account that has no entries yet. -/
theorem nil (opened : account.createdAt.le account.updatedAt = true) : InTime account [] :=
  ⟨opened, .nil, fun _ member => nomatch member⟩

/-- An account that goes on without a new entry. -/
theorem goesOn (inTime : InTime account entries) (createdAt : later.createdAt = account.createdAt)
    (notBack : account.updatedAt.le later.updatedAt = true) : InTime later entries where
  opened := createdAt ▸ Timestamp.le_trans inTime.opened notBack
  ordered := inTime.ordered
  between := by
    intro entry member
    obtain ⟨after, before⟩ := inTime.between entry member
    exact ⟨createdAt ▸ after, Timestamp.le_trans before notBack⟩

/-- An account that goes on with one more entry. -/
theorem snoc (inTime : InTime account entries) {entry : LedgerEntry}
    (createdAt : later.createdAt = account.createdAt) (updatedAt : later.updatedAt = entry.createdAt)
    (notBack : account.updatedAt.le later.updatedAt = true) : InTime later (entries ++ [entry]) where
  opened := (inTime.goesOn createdAt notBack).opened
  ordered := by
    refine List.pairwise_append.mpr ⟨inTime.ordered, List.pairwise_singleton _ _, ?_⟩
    intro earlier member last here
    rw [List.mem_singleton.mp here, ← updatedAt]
    exact ((inTime.goesOn createdAt notBack).between earlier member).2
  between := by
    intro other member
    rcases List.mem_append.mp member with old | new
    · exact (inTime.goesOn createdAt notBack).between other old
    · rw [List.mem_singleton.mp new, ← updatedAt]
      exact ⟨(inTime.goesOn createdAt notBack).opened, Timestamp.le_refl _⟩

end InTime

/-- All accounts have their entries in order of time. -/
def AllInTime (tables : Tables) : Prop :=
  ∀ id account, tables.account? id = some account → InTime account (entriesOf tables id)

/-- They stay so when one account is written that has its entries in order of time. -/
theorem AllInTime.extend {tables written : Tables} {new : Account} (inTime : AllInTime tables)
    (apart : written.DistinctRows)
    (rows : ∀ id, written.account? id = if new.id = id then some new else none)
    (entries : ∀ entry ∈ written.entries, entry.account = new.id)
    (new' : InTime new (entriesOf (tables.extend written) new.id)) : AllInTime (tables.extend written) := by
  intro id account found
  rw [Tables.account?_extend apart, rows] at found
  split at found
  · rename_i same
    cases found
    exact same ▸ new'
  · rename_i different
    rw [entriesOf_extend_of_ne entries different]
    exact inTime id account found

/-- So they do when no entry is written. -/
theorem AllInTime.put {tables : Tables} {new : Account} (inTime : AllInTime tables)
    (new' : InTime new (entriesOf tables new.id)) :
    AllInTime (tables.extend (Tables.empty.putAccount new)) := by
  refine inTime.extend (.putAccount .empty new) (Tables.account?_putAccount_empty new) ?_ ?_
  · intro entry member
    cases member
  · rwa [entriesOf_extend_putAccount]

/-- An operation leaves all accounts in order of time, as long as no row goes back in time. -/
theorem Operation.Yields.allInTime {base : Tables → Prop} {fresh : Uuid → Prop} {defaultCurrency : Currency}
    {user : UserId} {operation : Operation} {answer : Answer} {tables staged : Tables}
    (yields : operation.Yields base fresh defaultCurrency user tables (.ok answer) staged)
    (inTime : AllInTime tables) (referenced : tables.Referenced)
    (notBack : NotBack tables (tables.extend staged)) : AllInTime (tables.extend staged) := by
  have apart := yields.distinctRows
  -- The row that replaces another is not of an earlier time.
  have later : ∀ {id : AccountId} {account new : Account}, staged.account? id = some new →
      tables.account? id = some account → account.updatedAt.le new.updatedAt = true := by
    intro id account new here found
    refine notBack id account new found ?_
    rw [Tables.account?_extend apart, here, Option.some_or]
  cases yields with
  | @opens _ id now _ absent =>
      apply inTime.put
      change InTime _ (entriesOf tables ⟨id⟩)
      rw [entriesOf_eq_nil referenced absent]
      exact .nil (Timestamp.le_refl now)
  | @moves _ request account moved entry found movement =>
      have key := Tables.id_of_account? found
      have rows := Tables.account?_putAccount_empty moved
      have updatedAt : moved.updatedAt = entry.createdAt := by rw [movement.moved_eq]; rfl
      have createdAt : moved.createdAt = account.createdAt := by rw [movement.moved_eq]; rfl
      refine inTime.extend apart rows ?_ ?_
      · intro other member
        rw [List.mem_singleton.mp member, movement.entryAccount, movement.id]
      · have more : entriesOf (tables.extend ((Tables.empty.putAccount moved).addEntry entry)) moved.id =
            entriesOf tables request.account ++ [entry] := by
          rw [entriesOf_extend, movement.id, key]
          simp [entriesOf, Tables.empty, movement.entryAccount, key]
        rw [more]
        refine (inTime request.account account found).snoc createdAt updatedAt (later ?_ found)
        exact (rows request.account).trans (if_pos (movement.id.trans key))
  | @closes id account now found =>
      have key : account.id = id := Tables.id_of_account? found
      apply inTime.put
      rw [show (closedAt account now).id = id from key]
      refine (inTime id account found).goesOn rfl (later ?_ found)
      exact (Tables.account?_putAccount_empty _ id).trans (if_pos key)
  | account | balance | history | transaction => rwa [Tables.extend_empty]

/-! ### Timelines of chronicles -/

def timeTold : Nat × Reading → Option Timestamp
  | (_, .now time) => some time
  | _ => none

namespace Chronicle

variable {chronicle after : Chronicle} {event : Event}

/-- The times that were told, in the order in which they were told. -/
def times (chronicle : Chronicle) : List Timestamp := chronicle.readings.filterMap timeTold

/-- The clock has never gone back so far. -/
def ClockGoesOn (chronicle : Chronicle) : Prop :=
  chronicle.times.Pairwise fun earlier later => earlier.le later = true

theorem times_of_follows {event : Session.Event Empty Answer} (follows : chronicle.Follows event after) :
    after.times = chronicle.times ++ (tellings chronicle.world event).filterMap timeTold := by
  rw [times, follows.readings, List.filterMap_append]
  rfl

/-- A clock that has never gone back had never done so before. -/
theorem ClockGoesOn.before (goesOn : after.ClockGoesOn) (happened : chronicle.after? event = some after) :
    chronicle.ClockGoesOn := by
  rcases after?_cases happened with ⟨context, operation, _, rfl⟩ | ⟨event', follows⟩
  · exact goesOn
  · rw [ClockGoesOn, times_of_follows follows] at goesOn
    exact (List.pairwise_append.mp goesOn).1

/-- What is told by an event comes after all that was told before. -/
theorem ClockGoesOn.comes {event : Session.Event Empty Answer} (goesOn : after.ClockGoesOn)
    (follows : chronicle.Follows event after) (number : Nat) :
    Comes (· ∈ chronicle.times) (· ∈ after.times) (chronicle.world.toldTo number event) := by
  rw [ClockGoesOn, times_of_follows follows] at goesOn
  rw [times_of_follows follows]
  refine ⟨fun time isPast => List.mem_append_left _ isPast, fun time told => ?_⟩
  have new : time ∈ (tellings chronicle.world event).filterMap timeTold := by
    rw [← readingsOf_tellings] at told
    obtain ⟨telling, here, same⟩ := List.mem_map.mp told
    refine List.mem_filterMap.mpr ⟨telling, (List.mem_filter.mp here).1, ?_⟩
    obtain ⟨_, reading⟩ := telling
    cases same
    rfl
  exact ⟨List.mem_append_right _ new, fun earlier isPast =>
    (List.pairwise_append.mp goesOn).2.2 earlier isPast time new⟩

/-- Every event leaves punctual operations punctual, and no row goes back in time, if the clock does not. -/
theorem punctual_after? (punctual : chronicle.world.Punctual (· ∈ chronicle.times))
    (order : chronicle.world.InOrder) (goesOn : after.ClockGoesOn)
    (happened : chronicle.after? event = some after) :
    after.world.Punctual (· ∈ after.times) ∧ NotBack chronicle.world.tables after.world.tables := by
  rcases after?_cases happened with ⟨context, operation, _, rfl⟩ | ⟨event', follows⟩
  · unfold call
    dsimp only
    split
    · exact ⟨punctual.add rfl rfl (.opening (operation.task_punctual _ _) _ _ _), .refl _⟩
    · exact ⟨punctual.add rfl rfl (.of_decided rfl), .refl _⟩
  · refine punctual.after? order ?_ (goesOn.comes follows) follows.world
    rintro context work rfl
    cases follows.notCall

/-- The operations are punctual, every entry is one of an account, and all accounts have their entries in
order of time. -/
structure Timely (chronicle : Chronicle) : Prop where
  punctual : chronicle.world.Punctual (· ∈ chronicle.times)
  referenced : chronicle.world.tables.Referenced
  inTime : AllInTime chronicle.world.tables

theorem Timely.start (defaultCurrency : Currency) : (Chronicle.start defaultCurrency .empty).Timely where
  punctual := by
    refine ⟨?_, ?_⟩
    · rintro _ _ ⟨⟩
    · intro number session known
      cases known
  referenced := by
    intro entry member
    cases member
  inTime := by
    rintro _ _ ⟨⟩

/-- Every event leaves it so, if the clock does not go back. -/
theorem Timely.after? (timely : chronicle.Timely) (regular : chronicle.Regular) (goesOn : after.ClockGoesOn)
    (happened : chronicle.after? event = some after) : after.Timely := by
  obtain ⟨punctual, notBack⟩ := punctual_after? timely.punctual regular.order goesOn happened
  refine ⟨punctual, lasting_referenced regular happened timely.referenced, ?_⟩
  cases regular.publishes happened with
  | nothing same => exact same ▸ timely.inTime
  | operation _ _ _ _ yields tables =>
      rw [tables] at notBack ⊢
      exact yields.allInTime timely.inTime timely.referenced notBack

/-- So does every history of events. -/
theorem timely_of_run? {defaultCurrency : Currency} {events : List Event}
    (ran : (Chronicle.start defaultCurrency .empty).run? events = some after) (goesOn : after.ClockGoesOn) :
    after.Timely := by
  have led := Leads.of_foldlM ran
  clear ran
  induction led with
  | start => exact .start defaultCurrency
  | snoc led happened inductionHypothesis =>
      have regular := (Regular.start defaultCurrency .empty).run? led.foldlM_eq
      exact (inductionHypothesis (goesOn.before happened)).after? regular goesOn happened

end Chronicle

/-! ### Ordered by time -/

/-- What is shown of rows when they are ordered by time, the latest first and rows of one time in any order,
and only so many are shown. -/
def LatestFirst (rows : List LedgerEntry) (limit : Nat) (shown : List LedgerEntry) : Prop :=
  ∃ ordered : List LedgerEntry, ordered.Perm rows ∧
    ordered.Pairwise (fun newer older => older.createdAt.le newer.createdAt = true) ∧
    shown = ordered.take limit

section LatestFirst

variable {rows shown shown' : List LedgerEntry} {limit : Nat}

/-- However rows of one time are ordered, the times that are shown are the same. -/
theorem LatestFirst.times_eq (one : LatestFirst rows limit shown) (other : LatestFirst rows limit shown') :
    shown.map (·.createdAt) = shown'.map (·.createdAt) := by
  obtain ⟨ordered, perm, sorted, rfl⟩ := one
  obtain ⟨ordered', perm', sorted', rfl⟩ := other
  have same : ordered.map (·.createdAt) = ordered'.map (·.createdAt) := by
    refine List.Perm.eq_of_pairwise (fun newer older _ _ before after => Timestamp.le_antisymm after before)
      (List.pairwise_map.mpr sorted) (List.pairwise_map.mpr sorted') ?_
    exact (perm.trans perm'.symm).map _
  rw [List.map_take, List.map_take, same]

/-- If no two rows are of one time, the same rows are shown. -/
theorem LatestFirst.eq_of_nodup (one : LatestFirst rows limit shown) (other : LatestFirst rows limit shown')
    (distinct : (rows.map (·.createdAt)).Nodup) : shown = shown' := by
  obtain ⟨ordered, perm, sorted, rfl⟩ := one
  obtain ⟨ordered', perm', sorted', rfl⟩ := other
  have same : ordered = ordered' := by
    refine List.Perm.eq_of_pairwise (fun newer older here there before after => ?_) sorted sorted'
      (perm.trans perm'.symm)
    exact Tables.eq_of_nodup_map LedgerEntry.createdAt distinct (perm.subset here) (perm'.subset there)
      (Timestamp.le_antisymm after before)
  rw [same]

end LatestFirst

/-- The entries of an account that were recorded for a user. -/
def recordedFor (tables : Tables) (user : UserId) (id : AccountId) : List LedgerEntry :=
  tables.entries.filter fun entry => entry.account == id && entry.user == user

/-- A history is ordered by time if the entries of the account were committed in order of time. -/
theorem InTime.latestFirst {tables : Tables} {account : Account}
    (inTime : InTime account (entriesOf tables account.id)) (user : UserId) :
    LatestFirst (recordedFor tables user account.id) 100 (tables.history user account.id) := by
  refine ⟨(recordedFor tables user account.id).reverse, List.reverse_perm _, ?_, ?_⟩
  · have own : recordedFor tables user account.id =
        (entriesOf tables account.id).filter (·.user == user) := by
      rw [recordedFor, entriesOf, List.filter_filter]
      congr 1
      funext entry
      exact Bool.and_comm _ _
    rw [List.pairwise_reverse, own]
    exact inTime.ordered.filter _
  · rw [Tables.history, recordedFor, List.filter_reverse]
    rfl

namespace Chronicle

/-- Whatever happens to the service on a store that has begun empty, with operations side by side that wait
for rows and converters, faults, deadlines and cancellations: if the clock never goes back,

1. the entries of every account bear times that do not go back from one that is committed to the next,
2. they lie between the time of its opening and the time of its last change, and
3. its history, for whichever user, shows what ordering the entries by time shows, the latest first: the same
   times however entries of one time are ordered, and the same entries if there are no two of one time. -/
theorem commits_in_order_of_time {defaultCurrency : Currency} {events : List Event} {finish : Chronicle}
    (ran : (Chronicle.start defaultCurrency .empty).run? events = some finish)
    (goesOn : finish.ClockGoesOn) :
    ∀ account ∈ finish.world.tables.accounts,
      (entriesOf finish.world.tables account.id).Pairwise
        (fun earlier later => earlier.createdAt.le later.createdAt = true) ∧
      (∀ entry ∈ entriesOf finish.world.tables account.id,
        account.createdAt.le entry.createdAt = true ∧ entry.createdAt.le account.updatedAt = true) ∧
      ∀ user,
        LatestFirst (recordedFor finish.world.tables user account.id) 100
          (finish.world.tables.history user account.id) ∧
        ∀ shown, LatestFirst (recordedFor finish.world.tables user account.id) 100 shown →
          shown.map (·.createdAt) = (finish.world.tables.history user account.id).map (·.createdAt) ∧
          (((recordedFor finish.world.tables user account.id).map (·.createdAt)).Nodup →
            shown = finish.world.tables.history user account.id) := by
  intro account member
  have distinct : finish.world.tables.DistinctRows :=
    ((Regular.start defaultCurrency .empty).assures_run? lasting_distinctRows .empty ran).1
  have inTime := (timely_of_run? ran goesOn).inTime _ account (distinct.account?_of_mem member)
  refine ⟨inTime.ordered, inTime.between, fun user => ⟨inTime.latestFirst user, fun shown latest => ?_⟩⟩
  exact ⟨latest.times_eq (inTime.latestFirst user), latest.eq_of_nodup (inTime.latestFirst user)⟩

/-- An account is opened, and two deposits are made side by side.  The one that was called last has locked the
account first, and the other has to wait for a while. -/
def turnstile : List Event :=
  let context := RequestContext.ofUser ⟨Uuid.ofNat 1⟩
  let deposit (amount : Money) : Operation := .move .credit (.internal ⟨Uuid.ofNat 2⟩ (.exact amount))
  let step (number : Nat) (second : Int) : Event :=
    .advanced number ⟨.ofSeconds second, Uuid.ofNat (number + 2), fun _ _ => .error .outOfRange⟩
  [.called context (.openAccount none)] ++ List.replicate 13 (step 0 1) ++
    [.called context (deposit ⟨13, .eur, by decide, by decide⟩),
      .called context (deposit ⟨14, .eur, by decide, by decide⟩)] ++
        List.replicate 3 (step 2 2) ++ List.replicate 3 (step 1 3) ++ List.replicate 16 (step 2 4) ++
          List.replicate 17 (step 1 5)

/-- Both bear the times at which they had the account for themselves. -/
theorem commits_in_order_of_time_turnstile :
    ∃ finish account, (Chronicle.start .eur .empty).run? turnstile = some finish ∧ finish.ClockGoesOn ∧
      account ∈ finish.world.tables.accounts ∧
      (entriesOf finish.world.tables account.id).map (·.createdAt) = [.ofSeconds 4, .ofSeconds 5] ∧
      (∀ entry ∈ entriesOf finish.world.tables account.id,
        account.createdAt.le entry.createdAt = true ∧ entry.createdAt.le account.updatedAt = true) ∧
      (finish.world.tables.history account.owner account.id).map (·.amount.amount) = [13, 14] ∧
      LatestFirst (recordedFor finish.world.tables account.owner account.id) 100
        (finish.world.tables.history account.owner account.id) := by
  have told : ((Chronicle.start .eur .empty).run? turnstile).map (·.times) =
      some [.ofSeconds 1, .ofSeconds 4, .ofSeconds 5] := by
    decide +kernel
  have opened : ((Chronicle.start .eur .empty).run? turnstile).map (fun finish =>
      finish.world.tables.accounts.map fun account =>
        ((entriesOf finish.world.tables account.id).map (·.createdAt),
          (finish.world.tables.history account.owner account.id).map (·.amount.amount))) =
            some [([.ofSeconds 4, .ofSeconds 5], [13, 14])] := by
    decide +kernel
  obtain ⟨finish, ran, times⟩ := Option.map_eq_some_iff.mp told
  rw [ran, Option.map_some, Option.some.injEq] at opened
  obtain ⟨account, single, shown⟩ := List.map_eq_singleton_iff.mp opened
  obtain ⟨committed, history⟩ := Prod.mk.inj shown
  have goesOn : finish.ClockGoesOn := by
    rw [ClockGoesOn, times]
    decide
  have member : account ∈ finish.world.tables.accounts := single ▸ List.mem_singleton.mpr rfl
  obtain ⟨_, between, latest⟩ := commits_in_order_of_time ran goesOn account member
  exact ⟨finish, account, ran, goesOn, member, committed, between, history, (latest account.owner).1⟩

end Chronicle

end Passbook.Service

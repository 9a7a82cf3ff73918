import Mathlib.Data.List.Nodup
import Passbook.Proofs.Service.Balance
import Passbook.Proofs.Service.Confidence
import Passbook.Proofs.Session.Twins
/-!
# Noninterference

What others have does not show in what a user sees.  The committed tables of one service may differ from those
of another in all that others own; as long as the user's accounts and entries are the same, and the same
accounts of others are open, everything the user has done in one can be done in the other, with the same
answers.  Of operations that only look, not even that much of others shows.
-/

namespace Passbook.Service

open Session
open Store (Tables missingAccount missingEntry)

/-! ### What the service can come to -/

/-- Committed tables that a new service can come to by operations, whoever has called them and however they
went side by side. -/
inductive Attainable (defaultCurrency : Currency) : Tables → Prop where
  | empty : Attainable defaultCurrency .empty
  | run {tables : Tables} {events : List Event} {finish : Chronicle}
      (attainable : Attainable defaultCurrency tables)
      (ran : (Chronicle.start defaultCurrency tables).run? events = some finish)
      (distinct : finish.freshIds.Nodup) : Attainable defaultCurrency finish.world.tables

/-- No account and no entry has an identifier. -/
def Unused (tables : Tables) (id : Uuid) : Prop :=
  tables.account? ⟨id⟩ = none ∧ tables.entry? ⟨id⟩ = none

namespace Attainable

variable {defaultCurrency : Currency} {tables : Tables}

/-- No two entries have one identifier. -/
theorem entryIds_nodup (attainable : Attainable defaultCurrency tables) : tables.entryIds.Nodup := by
  induction attainable with
  | empty => exact List.nodup_nil
  | run _ ran distinct inductionHypothesis =>
      obtain ⟨log, logged, _⟩ := Chronicle.exists_logged ran distinct
      exact logged.serially.entryIds_nodup inductionHypothesis

/-- Identifiers that are not used are no identifiers of others. -/
theorem reserved (attainable : Attainable defaultCurrency tables) (user : UserId) {fresh : Uuid → Prop}
    (unused : ∀ id, fresh id → Unused tables id) : Reserved user fresh tables where
  rows := by
    intro id account isFresh found
    rw [(unused id.uuid isFresh).1] at found
    cases found
  entries := by
    intro entry member isFresh
    have absent := Tables.entry?_eq_none_iff.mp (unused entry.id.uuid isFresh).2
    exact absurd (List.mem_map.mpr ⟨entry, member, rfl⟩) absent
  unmixed := by
    intro entry member entry' member' same owner
    rw [List.inj_on_of_nodup_map attainable.entryIds_nodup member' member same]
    exact owner

end Attainable

/-! ### Looking for what is not one's own -/

/-- An operation looks at something that is not the user's, whether it is another's or there is no such
thing; the error says that there is none. -/
inductive Operation.SeeksForeign (user : UserId) (tables : Tables) : Operation → LedgerError → Prop where
  | account (id : AccountId) (foreign : Foreign user (tables.account? id)) :
      SeeksForeign user tables (.account id) (missingAccount id)
  | balance (id : AccountId) (foreign : Foreign user (tables.account? id)) :
      SeeksForeign user tables (.balance id) (missingAccount id)
  | history (id : AccountId) (foreign : Foreign user (tables.account? id)) :
      SeeksForeign user tables (.history id) (missingAccount id)
  | transaction (id : TransactionId) (foreign : ForeignEntry user (tables.entry? id)) :
      SeeksForeign user tables (.transaction id) (missingEntry id)

/-- Whoever looks for what is not their own is answered that it is not there. -/
theorem Operation.SeeksForeign.carryOut_eq {user : UserId} {tables : Tables} {operation : Operation}
    {e : LedgerError} (seeks : operation.SeeksForeign user tables e) (defaultCurrency : Currency) :
    operation.carryOut defaultCurrency user tables [] = some (.failed e, tables) := by
  have checked : operation.check = .ok () := by cases seeks <;> rfl
  have ended : ∀ {β : Type} {e : LedgerError} {rest : Work Empty β} (f : β → Answer),
      rest = .done (.error e) →
        (f <$> rest).task.execute tables .empty [] = some (.failed e, .empty) := by
    rintro β e rest f rfl
    rfl
  have alone : (operation.task defaultCurrency user).execute tables .empty [] =
      some (.failed e, .empty) := by
    cases seeks with
    | account id foreign =>
        have missing := ended Answer.account (accountWork_of_foreign id foreign)
        exact missing
    | balance id foreign =>
        have missing := ended (fun account => Answer.balance account.balance)
          (accountWork_of_foreign id foreign)
        exact missing
    | history id foreign =>
        have missing := ended Answer.history (historyWork_of_foreign id foreign)
        exact missing
    | transaction id foreign =>
        have missing := ended Answer.entry (transactionWork_of_foreign id foreign)
        exact missing
  rw [Operation.carryOut_of_checked checked, alone]
  rfl

namespace Chronicle

variable {user : UserId} {known : Prop} {fresh : Uuid → Prop} {chronicle next : Chronicle} {other : Tables}

/-! ### Twin chronicles -/

/-- The chronicle on other committed tables. -/
def withTables (chronicle : Chronicle) (tables : Tables) : Chronicle :=
  { chronicle with world := chronicle.world.withTables tables }

/-- Identifiers that were handed out stay so. -/
theorem freshIds_subset {event : Event} (happened : chronicle.after? event = some next) :
    chronicle.freshIds ⊆ next.freshIds := by
  rcases after?_cases happened with ⟨context, operation, _, rfl⟩ | ⟨event', follows⟩
  · exact List.Subset.refl _
  · rw [freshIds, freshIds, follows.readings, List.filterMap_append]
    exact List.subset_append_left _ _

/-- A fresh identifier that a session is told is one of those that were handed out. -/
theorem Follows.mem_freshIds {event : Session.Event Empty Answer} (follows : chronicle.Follows event next)
    {number : Nat} {id : Uuid} (told : .newId id ∈ chronicle.world.toldTo number event) :
    id ∈ next.freshIds := by
  have heard : Reading.newId id ∈ next.readingsOf number := by
    rw [follows.readingsOf_eq]
    exact List.mem_append_right _ told
  exact List.mem_filterMap.mpr ⟨_, mem_readingsOf.mp heard, rfl⟩

/-- A call by the user leaves worlds twins. -/
private theorem twin_call (twin : chronicle.world.Twin user known fresh other) {context : RequestContext}
    {operation : Operation} (own : context.user = user) (scope : operation.isLook = true ∨ known) :
    (chronicle.call context operation).world.Twin user known fresh other ∧
      (chronicle.withTables other).call context operation =
        (chronicle.call context operation).withTables other := by
  subst own
  unfold call
  dsimp only
  cases operation.check with
  | error e => exact ⟨twin.add (.of_decided (.empty _ fresh) rfl) rfl rfl, rfl⟩
  | ok => exact ⟨twin.call context _ (operation.task_discreet _ _ scope), rfl⟩

/-- An event of the store that can happen in a chronicle can happen in its twin, and leaves them twins. -/
private theorem twin_follow (twin : chronicle.world.Twin user known fresh other)
    {event : Session.Event Empty Answer} (notCall : event.isCall = false)
    (told : ∀ id ∈ next.freshIds, fresh id) (followed : chronicle.follow event = some next) :
    ∃ other', (chronicle.withTables other).follow event = some (next.withTables other') ∧
      next.world.Twin user known fresh other' := by
  have follows := follows_of_follow notCall followed
  obtain ⟨world, happened, rfl⟩ := Option.map_eq_some_iff.mp followed
  obtain ⟨other', happened', twin'⟩ := twin.after? notCall
    (fun number id heard => told id (follows.mem_freshIds heard)) happened
  refine ⟨other', ?_, twin'⟩
  exact Option.map_eq_some_iff.mpr ⟨_, happened', rfl⟩

/-- Whatever happens in a chronicle in which the user alone calls operations happens in its twin, and leaves
them twins. -/
private theorem twin_after? (twin : chronicle.world.Twin user known fresh other) {event : Event}
    (own : ∀ context operation, event = .called context operation →
      context.user = user ∧ (operation.isLook = true ∨ known))
    (told : ∀ id ∈ next.freshIds, fresh id) (happened : chronicle.after? event = some next) :
    ∃ other', (chronicle.withTables other).after? event = some (next.withTables other') ∧
      next.world.Twin user known fresh other' := by
  cases event with
  | called context operation =>
      cases happened
      obtain ⟨caller, scope⟩ := own context operation rfl
      obtain ⟨twin', same⟩ := twin_call twin caller scope
      exact ⟨other, congrArg some same, twin'⟩
  | advanced | expired | cancelled | ticked | armed => exact twin_follow twin rfl told happened

/-- So does every history of events. -/
theorem exists_twin {start finish : Chronicle} {events : List Event}
    (led : Leads after? start events finish) (twin : start.world.Twin user known fresh other)
    (own : ∀ context operation, .called context operation ∈ events →
      context.user = user ∧ (operation.isLook = true ∨ known))
    (told : ∀ id ∈ finish.freshIds, fresh id) :
    ∃ other', Leads after? (start.withTables other) events (finish.withTables other') ∧
      finish.world.Twin user known fresh other' := by
  induction led with
  | start => exact ⟨other, .start, twin⟩
  | snoc before happened inductionHypothesis =>
      obtain ⟨mid, led, twin'⟩ := inductionHypothesis
        (fun context operation member => own context operation (List.mem_append_left _ member))
        fun id drawn => told id (freshIds_subset happened drawn)
      obtain ⟨other', happened', twin''⟩ := twin_after? twin'
        (fun context operation here => own context operation (by simp [here])) told happened
      exact ⟨other', led.snoc happened', twin''⟩

/-! ### Noninterference -/

/-- Let a user have the same accounts, and the same entries in the same order, in two states that a service
can come to.  Whatever happens in one of them in which nobody but the user calls operations, and in which
identifiers are handed out that are not used in either state, happens in the other as well if the user only
looks, or if the same accounts of others are open in both:

1. every session comes to the same answer, and was told the same on its way;
2. the service comes to two such states again;
3. whoever looks at an account or an entry that is not the user's is answered that there is none, whether it
   is another's or not there. -/
theorem noninterference {defaultCurrency : Currency} {user : UserId} {one other : Tables}
    (attainable : Attainable defaultCurrency one) (attainable' : Attainable defaultCurrency other)
    (same : SameFor user one other) {events : List Event} {finish : Chronicle}
    (own : ∀ context operation, .called context operation ∈ events →
      context.user = user ∧ (operation.isLook = true ∨ AgreeOnLive user one other))
    (ran : (Chronicle.start defaultCurrency one).run? events = some finish)
    (distinct : finish.freshIds.Nodup)
    (unused : ∀ id ∈ finish.freshIds, Unused one id ∧ Unused other id) :
    (∃ finish', (Chronicle.start defaultCurrency other).run? events = some finish' ∧
      (finish'.calls = finish.calls ∧ finish'.readings = finish.readings ∧
        finish'.world.sessions = finish.world.sessions) ∧
      Attainable defaultCurrency finish.world.tables ∧ Attainable defaultCurrency finish'.world.tables ∧
        SameFor user finish.world.tables finish'.world.tables ∧
          (AgreeOnLive user one other → AgreeOnLive user finish.world.tables finish'.world.tables)) ∧
    ∀ (operation : Operation) (e : LedgerError), operation.SeeksForeign user one e →
      operation.carryOut defaultCurrency user one [] = some (.failed e, one) := by
  constructor
  · have twin : (Chronicle.start defaultCurrency one).world.Twin user (AgreeOnLive user one other)
        (· ∈ finish.freshIds) other :=
      { alike :=
          { same := same
            live := id
            reserved := attainable.reserved user fun id drawn => (unused id drawn).1
            reserved' := attainable'.reserved user fun id drawn => (unused id drawn).2 }
        sessions := by
          intro number session here
          cases here }
    obtain ⟨other', led, twin'⟩ := exists_twin (.of_foldlM ran) twin own fun _ drawn => drawn
    have ran' : (Chronicle.start defaultCurrency other).run? events =
        some (finish.withTables other') := led.foldlM_eq
    exact ⟨finish.withTables other', ran', ⟨rfl, rfl, rfl⟩, attainable.run ran distinct,
      attainable'.run ran' distinct, twin'.alike.same, twin'.alike.live⟩
  · exact fun _ _ seeks => seeks.carryOut_eq defaultCurrency

/-- Two users open an account each, and the second puts six into theirs. -/
def neighbours : List Event :=
  let step (id number : Nat) : Event :=
    .advanced number ⟨⟨0, 0⟩, Uuid.ofNat id, fun _ _ => .error .outOfRange⟩
  let six : Money := ⟨6, .eur, by decide, by decide⟩
  [.called (.ofUser ⟨Uuid.ofNat 1⟩) (.openAccount none)] ++ List.replicate 13 (step 2 0) ++
    [.called (.ofUser ⟨Uuid.ofNat 9⟩) (.openAccount none)] ++ List.replicate 13 (step 3 1) ++
      [.called (.ofUser ⟨Uuid.ofNat 9⟩) (.move .credit (.internal ⟨Uuid.ofNat 3⟩ (.exact six)))] ++
        List.replicate 19 (step 4 2)

/-- The first user looks at the second's account, tries to take six out of it, and puts six into their
own. -/
def prying : List Event :=
  let context := RequestContext.ofUser ⟨Uuid.ofNat 1⟩
  let step (number : Nat) : Event :=
    .advanced number ⟨⟨0, 0⟩, Uuid.ofNat 5, fun _ _ => .error .outOfRange⟩
  let six : Money := ⟨6, .eur, by decide, by decide⟩
  [.called context (.balance ⟨Uuid.ofNat 3⟩)] ++ List.replicate 5 (step 0) ++
    [.called context (.move .debit (.internal ⟨Uuid.ofNat 3⟩ (.exact six)))] ++
      List.replicate 8 (step 1) ++
        [.called context (.move .credit (.internal ⟨Uuid.ofNat 2⟩ (.exact six)))] ++
          List.replicate 19 (step 2)

/-- The accounts of the two, the second's with what is in it, and entries. -/
def households (balance : Money) (entries : List LedgerEntry) : Tables :=
  ⟨[.opened ⟨Uuid.ofNat 2⟩ ⟨Uuid.ofNat 1⟩ .eur ⟨0, 0⟩,
    ⟨⟨Uuid.ofNat 3⟩, ⟨Uuid.ofNat 9⟩, balance, ⟨0, 0⟩, ⟨0, 0⟩, none⟩], entries⟩

private theorem account?_households (balance : Money) (entries : List LedgerEntry) (id : AccountId) :
    (households balance entries).account? id =
      if id = ⟨Uuid.ofNat 2⟩ then some (.opened ⟨Uuid.ofNat 2⟩ ⟨Uuid.ofNat 1⟩ .eur ⟨0, 0⟩)
      else if id = ⟨Uuid.ofNat 3⟩ then
        some ⟨⟨Uuid.ofNat 3⟩, ⟨Uuid.ofNat 9⟩, balance, ⟨0, 0⟩, ⟨0, 0⟩, none⟩
      else none := by
  by_cases first : id = ⟨Uuid.ofNat 2⟩
  · subst first
    rfl
  · by_cases second : id = ⟨Uuid.ofNat 3⟩
    · subst second
      rfl
    · have passed : ((⟨Uuid.ofNat 2⟩ : AccountId) == id) = false := by simpa using Ne.symm first
      have passed' : ((⟨Uuid.ofNat 3⟩ : AccountId) == id) = false := by simpa using Ne.symm second
      simp [Tables.account?, households, Account.opened, first, second, passed, passed']

/-- To the first user it is all one what is in the second's account, and what entries the second has. -/
private theorem households_alike (balance balance' : Money) {entries : List LedgerEntry}
    (others : ∀ entry ∈ entries, entry.user ≠ ⟨Uuid.ofNat 1⟩) :
    SameFor ⟨Uuid.ofNat 1⟩ (households balance []) (households balance' entries) ∧
      AgreeOnLive ⟨Uuid.ofNat 1⟩ (households balance []) (households balance' entries) := by
  have different : (⟨Uuid.ofNat 9⟩ : UserId) ≠ ⟨Uuid.ofNat 1⟩ := by decide
  refine ⟨⟨?_, ?_⟩, ?_⟩
  · intro id account owner
    rw [account?_households, account?_households]
    split
    · exact Iff.rfl
    · split
      · constructor <;>
          · rintro ⟨rfl⟩
            exact absurd owner different
      · exact Iff.rfl
  · symm
    simpa [households] using others
  · intro id
    simp only [OthersLive, account?_households]
    split
    · exact Iff.rfl
    · split
      · constructor <;>
          · rintro ⟨_, ⟨rfl⟩, _⟩
            exact ⟨_, rfl, different, rfl⟩
      · exact Iff.rfl

/-- The first user cannot tell whether the second has put anything into their account. -/
theorem noninterference_prying :
    ∃ one other finish finish', Attainable .eur one ∧ Attainable .eur other ∧
      one.entries.length = 0 ∧ other.entries.length = 1 ∧
      (Chronicle.start .eur one).run? prying = some finish ∧
      (Chronicle.start .eur other).run? prying = some finish' ∧
      finish.world.sessions.map (·.phase.ending.isSome) = [true, true, true] ∧
      finish'.world.sessions = finish.world.sessions := by
  let none' : Money := .zero .eur
  let six : Money := ⟨6, .eur, by decide, by decide⟩
  let entry : LedgerEntry :=
    ⟨⟨Uuid.ofNat 4⟩, ⟨Uuid.ofNat 3⟩, ⟨Uuid.ofNat 9⟩, six, six, .internal, none, none, ⟨0, 0⟩⟩
  have opened : ((Chronicle.start .eur .empty).run? (neighbours.take 28)).map
      (fun mid => (mid.freshIds, mid.world.tables)) =
        some ([Uuid.ofNat 2, Uuid.ofNat 3], households none' []) := by
    decide +kernel
  have deposited : ((Chronicle.start .eur .empty).run? neighbours).map
      (fun mid => (mid.freshIds, mid.world.tables)) =
        some ([Uuid.ofNat 2, Uuid.ofNat 3, Uuid.ofNat 4], households six [entry]) := by
    decide +kernel
  have pried : ((Chronicle.start .eur (households none' [])).run? prying).map
      (fun finish => (finish.freshIds, finish.world.sessions.map (·.phase.ending.isSome))) =
        some ([Uuid.ofNat 5], [true, true, true]) := by
    decide +kernel
  have attainable : Attainable .eur (households none' []) := by
    obtain ⟨mid, ran, came⟩ := Option.map_eq_some_iff.mp opened
    obtain ⟨drawn, tables⟩ := Prod.mk.inj came
    exact tables ▸ Attainable.empty.run ran (drawn ▸ by decide)
  have attainable' : Attainable .eur (households six [entry]) := by
    obtain ⟨mid, ran, came⟩ := Option.map_eq_some_iff.mp deposited
    obtain ⟨drawn, tables⟩ := Prod.mk.inj came
    exact tables ▸ Attainable.empty.run ran (drawn ▸ by decide)
  have others : ∀ found ∈ [entry], found.user ≠ ⟨Uuid.ofNat 1⟩ := by decide
  obtain ⟨same, live⟩ := households_alike none' six others
  obtain ⟨finish, ran, came⟩ := Option.map_eq_some_iff.mp pried
  obtain ⟨drawn, isOver⟩ := Prod.mk.inj came
  have own : ∀ context operation, .called context operation ∈ prying →
      context.user = ⟨Uuid.ofNat 1⟩ ∧
        (operation.isLook = true ∨
          AgreeOnLive ⟨Uuid.ofNat 1⟩ (households none' []) (households six [entry])) := by
    intro context operation member
    simp only [prying, List.mem_append, List.mem_singleton, List.mem_replicate, reduceCtorEq, and_false,
      or_false, Event.called.injEq] at member
    refine ⟨?_, .inr live⟩
    rcases member with (⟨rfl, _⟩ | ⟨rfl, _⟩) | ⟨rfl, _⟩ <;> rfl
  have unused : ∀ id ∈ finish.freshIds,
      Unused (households none' []) id ∧ Unused (households six [entry]) id := by
    intro id handedOut
    rw [drawn, List.mem_singleton] at handedOut
    subst handedOut
    exact ⟨⟨rfl, rfl⟩, rfl, rfl⟩
  obtain ⟨⟨finish', ran', ⟨_, _, sessions⟩, _⟩, _⟩ :=
    noninterference attainable attainable' same own ran (drawn ▸ by decide) unused
  exact ⟨_, _, finish, finish', attainable, attainable', rfl, rfl, ran, ran', isOver, sessions⟩

end Chronicle

end Passbook.Service

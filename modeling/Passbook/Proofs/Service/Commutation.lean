import Passbook.Proofs.Service.Closing
import Passbook.Proofs.Service.Deadlock
import Passbook.Proofs.Service.Performance
import Passbook.Proofs.Session.Conduct
/-!
# Operations on different accounts

Two operations that change different accounts can be carried out in either order.  Each of them looks only at
the account it is to change and at entries under the identifier that it was handed out, and it writes nothing
but that account and entries of it; so neither sees what the other has written.  The entries of the ledger stand
in another order then, but those of each account do not.
-/

namespace Passbook

open Session (Surroundings Outcome World)
open Store (Tables)

/-! ### What a guarded task sees and writes -/

namespace Session.Task.Guarded

variable {ν α : Type} {around : Nat → Surroundings} {row : AccountId} {committed other : Tables}

/-- A guarded task that locks one row comes to the same on tables that agree in this row and in the entries under
the identifiers that it is handed out. -/
theorem conduct_congr {task : Task ν α} (rows : other.account? row = committed.account? row)
    (entries : ∀ asked, other.entry? ⟨(around asked).newId⟩ = committed.entry? ⟨(around asked).newId⟩) :
    ∀ {held drawn staged told}, task.Guarded held drawn → task.OneRow (some row) →
      (∀ id, held id → id = row) → (∀ id, drawn id → ∃ asked, (around asked).newId = id) →
        task.conduct other around staged told = task.conduct committed around staged told := by
  -- On the way no other row than this one is locked, and all identifiers that are drawn were handed out.
  induction task with
  | done | panic =>
      intros
      rfl
  | lockRow id next inductionHypothesis =>
      rintro held drawn staged told guarded ⟨only, oneRow⟩ own handedOut
      cases only row rfl
      refine inductionHypothesis guarded oneRow ?_ handedOut
      rintro other (rfl | already)
      · rfl
      · exact own other already
  | readAccount id next inductionHypothesis =>
      rintro held drawn staged told ⟨locked, guarded⟩ oneRow own handedOut
      cases own id locked
      rw [conduct, conduct, Tables.visibleAccount?_congr rows]
      exact inductionHypothesis _ (guarded _)
        (oneRow _ fun account found => Tables.id_of_visibleAccount? found) own handedOut
  | readEntry id next inductionHypothesis =>
      rintro held drawn staged told ⟨mine, guarded⟩ oneRow own handedOut
      obtain ⟨asked, same⟩ := handedOut _ mine
      have entry : other.entry? id = committed.entry? id := by
        have found := entries asked
        rwa [same] at found
      rw [conduct, conduct, Tables.visibleEntry?_congr entry]
      exact inductionHypothesis _ (guarded _) (oneRow _) own handedOut
  | readHistory user account next =>
      intro held drawn staged told guarded
      exact guarded.elim
  | takeInsertFault next inductionHypothesis =>
      rintro held drawn staged told ⟨_, guarded⟩ oneRow own handedOut
      exact inductionHypothesis false guarded (oneRow false) own handedOut
  | putAccount account next inductionHypothesis =>
      intro held drawn staged told guarded oneRow own handedOut
      exact inductionHypothesis guarded oneRow own handedOut
  | addEntry entry next inductionHypothesis =>
      rintro held drawn staged told ⟨_, guarded⟩ oneRow own handedOut
      exact inductionHypothesis guarded oneRow own handedOut
  | now next inductionHypothesis =>
      intro held drawn staged told guarded oneRow own handedOut
      exact inductionHypothesis _ (guarded _) (oneRow _) own handedOut
  | newId next inductionHypothesis =>
      intro held drawn staged told guarded oneRow own handedOut
      refine inductionHypothesis _ (guarded _) (oneRow _) own ?_
      rintro id (rfl | already)
      · exact ⟨told, rfl⟩
      · exact handedOut id already
  | convert amount target next inductionHypothesis =>
      intro held drawn staged told guarded oneRow own handedOut
      exact inductionHypothesis _ (guarded _) (oneRow _) own handedOut
  | sleep millis next =>
      intro held drawn staged told _ oneRow
      exact oneRow.elim
  | note entry next inductionHypothesis =>
      intro held drawn staged told guarded oneRow own handedOut
      exact inductionHypothesis guarded oneRow own handedOut

/-- A guarded task stages entries under identifiers that it is handed out. -/
theorem conduct_entries {task : Task ν α} :
    ∀ {held drawn staged told}, task.Guarded held drawn →
      (∀ id, drawn id → ∃ asked, (around asked).newId = id) →
      (∀ entry ∈ staged.entries, ∃ asked, (around asked).newId = entry.id.uuid) →
        ∀ entry ∈ (task.conduct committed around staged told).2.entries,
          ∃ asked, (around asked).newId = entry.id.uuid := by
  induction task with
  | done =>
      intro held drawn staged told _ _ already
      exact already
  | panic | readHistory =>
      intro held drawn staged told guarded
      exact guarded.elim
  | lockRow id next inductionHypothesis | putAccount account next inductionHypothesis
  | sleep millis next inductionHypothesis | note entry next inductionHypothesis =>
      intro held drawn staged told guarded handedOut already
      exact inductionHypothesis guarded handedOut already
  | readAccount id next inductionHypothesis | readEntry id next inductionHypothesis
  | takeInsertFault next inductionHypothesis =>
      rintro held drawn staged told ⟨_, guarded⟩ handedOut already
      first
        | exact inductionHypothesis _ (guarded _) handedOut already
        | exact inductionHypothesis false guarded handedOut already
  | addEntry entry next inductionHypothesis =>
      rintro held drawn staged told ⟨mine, guarded⟩ handedOut already
      refine inductionHypothesis guarded handedOut ?_
      intro other member
      rcases List.mem_append.mp member with old | new
      · exact already other old
      · cases List.mem_singleton.mp new
        exact handedOut _ mine
  | now next inductionHypothesis | convert amount target next inductionHypothesis =>
      intro held drawn staged told guarded handedOut already
      exact inductionHypothesis _ (guarded _) handedOut already
  | newId next inductionHypothesis =>
      intro held drawn staged told guarded handedOut already
      refine inductionHypothesis _ (guarded _) ?_ already
      rintro id (rfl | before)
      · exact ⟨told, rfl⟩
      · exact handedOut id before

end Session.Task.Guarded

namespace Service

/-! ### What an operation comes to -/

namespace Operation

/-- Carry out an operation by itself when no fault is armed and its questions are answered by what surrounds it:
how it ends, and what it has staged by then. -/
def conduct (defaultCurrency : Currency) (user : UserId) (operation : Operation) (tables : Tables)
    (around : Nat → Surroundings) : Outcome Answer × Tables :=
  match operation.check with
  | .error e => (.failed e, .empty)
  | .ok () => (operation.task defaultCurrency user).conduct tables around .empty 0

theorem isLook_of_changes {operation : Operation} {id : AccountId}
    (changes : operation.changes? = some id) : operation.isLook = false := by
  cases operation with
  | move | closeAccount => rfl
  | _ => cases changes

end Operation

theorem publish_eq (tables : Tables) (done : Outcome Answer × Tables) :
    Session.publish tables done = published tables done := by
  obtain ⟨outcome, staged⟩ := done
  cases outcome <;> rfl

/-- What a run has written: what it has staged if it has completed, and else nothing. -/
def written : Outcome Answer × Tables → Tables
  | (.completed _, staged) => staged
  | _ => .empty

theorem published_eq (tables : Tables) (done : Outcome Answer × Tables) :
    published tables done = tables.extend (written done) := by
  obtain ⟨outcome, staged⟩ := done
  cases outcome with
  | completed => rfl
  | _ => exact (Tables.extend_empty tables).symm

/-- Only the row of one account is written, and entries of it, under identifiers that were handed out. -/
structure Confined (id : AccountId) (around : Nat → Surroundings) (tables : Tables) : Prop where
  distinct : tables.DistinctRows
  rows : ∀ other, other ≠ id → tables.account? other = none
  entries : ∀ entry ∈ tables.entries, entry.account = id ∧ ∃ asked, (around asked).newId = entry.id.uuid

theorem Confined.empty (id : AccountId) (around : Nat → Surroundings) : Confined id around .empty :=
  ⟨.empty, fun _ _ => rfl, fun _ member => absurd member List.not_mem_nil⟩

namespace Operation

variable {operation : Operation} {id : AccountId} {defaultCurrency : Currency} {user : UserId}
  {around : Nat → Surroundings}

/-- The task of an operation comes to what the operation is sure to yield. -/
theorem exists_yields (defaultCurrency : Currency) (user : UserId) (operation : Operation) (tables : Tables)
    (around : Nat → Surroundings) :
    ∃ result, ((operation.task defaultCurrency user).conduct tables around .empty 0).1 = .ofResult result ∧
      operation.Yields (· = tables) anyId defaultCurrency user tables result
        ((operation.task defaultCurrency user).conduct tables around .empty 0).2 := by
  obtain ⟨readings, executed⟩ := (operation.task defaultCurrency user).exists_execute tables around .empty 0
  have assures : Session.Work.Assures anyId _ (operation.work defaultCurrency user) (· = tables) .empty :=
    operation.work_assures defaultCurrency user fun _ same => same
  generalize (operation.task defaultCurrency user).conduct tables around .empty 0 = done at executed
  obtain ⟨outcome, staged⟩ := done
  obtain ⟨result, expects, rfl, expected, settles⟩ := assures.task.execute rfl (fun _ _ => trivial) executed
  exact ⟨result, rfl, settles tables expected⟩

/-- An operation writes nothing but the account it is to change. -/
theorem confined_written (changes : operation.changes? = some id) (tables : Tables) :
    Confined id around (written (operation.conduct defaultCurrency user tables around)) := by
  unfold conduct
  split
  · exact .empty id around
  · -- That the entries have identifiers that were handed out is known from what a guarded task may do; all else
    -- from what the operation is sure to yield.
    have guarded := operation.task_guarded defaultCurrency user (isLook_of_changes changes)
    have ids : ∀ entry ∈ ((operation.task defaultCurrency user).conduct tables around .empty 0).2.entries,
        ∃ asked, (around asked).newId = entry.id.uuid :=
      guarded.conduct_entries (fun _ drawn => drawn.elim) fun _ member => absurd member List.not_mem_nil
    have names : operation.account? = some id := by
      cases operation with
      | move | closeAccount => exact changes
      | _ => cases changes
    obtain ⟨result, ended, yields⟩ := exists_yields defaultCurrency user operation tables around
    generalize (operation.task defaultCurrency user).conduct tables around .empty 0 = done at ids ended yields
    obtain ⟨outcome, staged⟩ := done
    subst ended
    cases result with
    | error e => exact .empty id around
    | ok answer =>
        refine ⟨yields.distinctRows, ?_, ?_⟩
        · intro other different
          rw [Option.eq_none_iff_forall_ne_some]
          intro row found
          rcases yields.of_row found with ⟨_, currency, rfl⟩ | ⟨_, _, _, _, names'⟩
          · cases changes
          · rw [names] at names'
            exact different (Option.some.inj names').symm
        · intro entry member
          obtain ⟨_, names', _⟩ := yields.of_entry member
          rw [names] at names'
          exact ⟨(Option.some.inj names').symm, ids entry member⟩

/-- An operation comes to the same on tables that agree in the account it is to change and in the entries under
the identifiers that it is handed out. -/
theorem conduct_congr (changes : operation.changes? = some id) {tables other : Tables}
    (rows : other.account? id = tables.account? id)
    (entries : ∀ asked, other.entry? ⟨(around asked).newId⟩ = tables.entry? ⟨(around asked).newId⟩) :
    operation.conduct defaultCurrency user other around =
      operation.conduct defaultCurrency user tables around := by
  unfold conduct
  split
  · rfl
  · exact (operation.task_guarded defaultCurrency user (isLook_of_changes changes)).conduct_congr rows entries
      (operation.task_oneRow_of_changes changes defaultCurrency user) (fun _ held => held.elim)
      fun _ drawn => drawn.elim

end Operation

/-! ### Either order -/

/-- Two pairs of tables show the same: the same rows, and to every user the same histories. -/
structure ShowsAs (tables other : Tables) : Prop where
  rows : ∀ id, tables.account? id = other.account? id
  histories : ∀ user id, tables.history user id = other.history user id

namespace Confined

variable {id id' : AccountId} {around around' : Nat → Surroundings} {tables wrote wrote' : Tables}

theorem entriesOf_eq_nil (confined : Confined id around wrote) {other : AccountId} (different : other ≠ id) :
    entriesOf wrote other = [] := by
  rw [entriesOf, List.filter_eq_nil_iff]
  intro entry member same
  rw [beq_iff_eq] at same
  exact different (same.symm.trans (confined.entries entry member).1)

/-- Nothing is written that an operation on another account looks at. -/
theorem unseen (confined : Confined id around wrote) (apart : id' ≠ id)
    (distinct : ∀ asked asked', (around asked).newId ≠ (around' asked').newId) (tables : Tables) :
    (tables.extend wrote).account? id' = tables.account? id' ∧
      ∀ asked, Tables.entry? (tables.extend wrote) ⟨(around' asked).newId⟩ =
        tables.entry? ⟨(around' asked).newId⟩ := by
  refine ⟨Tables.account?_extend_of_none confined.distinct (confined.rows id' apart), fun asked => ?_⟩
  have unused : wrote.entry? ⟨(around' asked).newId⟩ = none := by
    rw [Tables.entry?_eq_none_iff]
    intro member
    obtain ⟨entry, recorded, same⟩ := List.mem_map.mp member
    obtain ⟨asked', drawn⟩ := (confined.entries entry recorded).2
    rw [same] at drawn
    exact distinct asked' asked drawn
  rw [Tables.entry?_extend, unused, Option.or_none]

/-- What is written on different accounts may be published in either order. -/
theorem showsAs (confined : Confined id around wrote) (confined' : Confined id' around' wrote')
    (apart : id' ≠ id) (tables : Tables) :
    ShowsAs ((tables.extend wrote).extend wrote') ((tables.extend wrote').extend wrote) where
  rows := by
    intro other
    rw [Tables.account?_extend confined'.distinct, Tables.account?_extend confined.distinct,
      Tables.account?_extend confined.distinct, Tables.account?_extend confined'.distinct]
    by_cases mine : other = id
    · rw [confined'.rows other (mine ▸ apart.symm), Option.none_or, Option.none_or]
    · rw [confined.rows other mine, Option.none_or, Option.none_or]
  histories := by
    intro user other
    rw [Store.Tables.history_eq, Store.Tables.history_eq, entriesOf_extend, entriesOf_extend, entriesOf_extend,
      entriesOf_extend]
    by_cases mine : other = id
    · rw [confined'.entriesOf_eq_nil (mine ▸ apart.symm), List.append_nil, List.append_nil]
    · rw [confined.entriesOf_eq_nil mine, List.append_nil, List.append_nil]

end Confined

/-- An operation comes to the same behind another that is to change another account. -/
theorem Operation.conduct_behind {one two : Operation} {id id' : AccountId} {defaultCurrency : Currency}
    {tables : Tables} {around around' : Nat → Surroundings} (changes : one.changes? = some id)
    (changes' : two.changes? = some id') (apart : id ≠ id') (user user' : UserId)
    (distinct : ∀ asked asked', (around asked).newId ≠ (around' asked').newId) :
    one.conduct defaultCurrency user
        (published tables (two.conduct defaultCurrency user' tables around')) around =
      one.conduct defaultCurrency user tables around := by
  rw [published_eq]
  have confined : Confined id' around' (written (two.conduct defaultCurrency user' tables around')) :=
    confined_written changes' tables
  obtain ⟨rows, entries⟩ :=
    confined.unseen apart (fun asked asked' => (distinct asked' asked).symm) tables
  exact conduct_congr changes rows entries

/-! ### Operations that are executed -/

namespace Chronicle

variable {chronicle after : Chronicle} {context : RequestContext} {operation : Operation}
  {around : Nat → Surroundings} {outcome : Outcome Answer} {id : AccountId}

/-- Nobody has locked a row or has asked for its lock. -/
def Untroubled (chronicle : Chronicle) (id : AccountId) : Prop :=
  ∀ session ∈ chronicle.world.sessions, ¬session.IsAfter id

/-- An operation is called, and its session goes on by its own steps, answered by what surrounds it, until it is
over.  Nobody else does anything meanwhile. -/
structure Executes (chronicle : Chronicle) (context : RequestContext) (operation : Operation)
    (around : Nat → Surroundings) (outcome : Outcome Answer) (after : Chronicle) : Prop where
  ran : ∃ arounds : List Surroundings, (∀ one ∈ arounds, ∃ asked, one = around asked) ∧
    chronicle.run? (.called context operation :: arounds.map (.advanced chronicle.calls.length)) = some after
  answered : ∃ session, after.world.sessions[chronicle.calls.length]? = some session ∧
    session.phase = .finished outcome

/-- A chronicle on which an operation can be executed, and on which another can be afterwards. -/
structure Ready (chronicle : Chronicle) : Prop where
  regular : chronicle.Regular
  unarmed : chronicle.world.faults = .none

/-- A session that is over is after no row. -/
theorem Regular.not_isAfter_of_isOver (regular : chronicle.Regular) {session : Session.Session Empty Answer}
    (member : session ∈ chronicle.world.sessions) (isOver : session.IsOver) (id : AccountId) :
    ¬session.IsAfter id := by
  obtain ⟨outcome, ended⟩ := isOver
  obtain ⟨free, _⟩ := regular.order.tidy session member (.inr ⟨outcome, ended⟩)
  rintro (⟨lock, held⟩ | ⟨lock, asked⟩)
  · rw [free] at held
    cases held
  · rw [ended] at asked
    cases asked

/-- The currency of accounts for which none is named stays the same. -/
theorem defaultCurrency_run? {events : List Event} (ran : chronicle.run? events = some after) :
    after.defaultCurrency = chronicle.defaultCurrency :=
  (Leads.of_foldlM ran).invariant (motive := fun later => later.defaultCurrency = chronicle.defaultCurrency) rfl
    fun before happened => (defaultCurrency_eq happened).trans before

/-- The session of an operation that has just been called. -/
def opening (chronicle : Chronicle) (context : RequestContext) (operation : Operation) :
    Session.Session Empty Answer :=
  ⟨context, .opening chronicle.world.clock (operation.task chronicle.defaultCurrency context.user),
    chronicle.world.clock, [], .empty, []⟩

/-- The session of an operation that has passed its check can go on by itself. -/
theorem Ready.solo_call (ready : chronicle.Ready) (checked : operation.check = .ok ())
    (untroubled : chronicle.Untroubled id) (inTime : context.isExpired chronicle.world.clock = false) :
    (chronicle.call context operation).world.Solo chronicle.calls.length
      (opening chronicle context operation) id := by
  have called : chronicle.run? [.called context operation] = some (chronicle.call context operation) := rfl
  have order := (ready.regular.run? called).order
  have number := ready.regular.length
  have world : (chronicle.call context operation).world = chronicle.world.call context
      chronicle.world.clock (operation.work chronicle.defaultCurrency context.user) := by
    simp only [Chronicle.call, checked]
  refine ⟨order, ?_, ?_, ?_, ?_, ?_⟩
  · rw [world]
    exact ready.unarmed
  · rw [world, ← number]
    exact List.getElem?_concat_length
  · rw [world]
    exact inTime
  · intro start task begins
    cases begins
    rw [world]
    exact Nat.le_refl _
  · intro other session different known
    rw [world] at known
    rcases World.session_added rfl known with old | ⟨same, _⟩
    · exact untroubled session (List.mem_of_getElem? old)
    · exact absurd (same.trans number) different

/-- What an operation comes to by itself is what comes of it when it is executed, and those who have stopped on
their way are where they were. -/
theorem Ready.exists_executes (ready : chronicle.Ready) (changes : operation.changes? = some id)
    (untroubled : chronicle.Untroubled id) (inTime : context.isExpired chronicle.world.clock = false)
    (around : Nat → Surroundings) :
    ∃ after, chronicle.Executes context operation around
        (operation.conduct chronicle.defaultCurrency context.user chronicle.world.tables around).1 after ∧
      after.world.tables = published chronicle.world.tables
        (operation.conduct chronicle.defaultCurrency context.user chronicle.world.tables around) ∧
      after.Ready ∧ after.defaultCurrency = chronicle.defaultCurrency ∧
      after.world.clock = chronicle.world.clock ∧
      ∀ other, chronicle.Untroubled other → after.Untroubled other := by
  have number := ready.regular.length
  cases checked : operation.check with
  | error e =>
      have world : (chronicle.call context operation).world = { chronicle.world with
          sessions := chronicle.world.sessions ++ [refused context chronicle.world.clock e] } := by
        simp only [Chronicle.call, checked]
      have ran : chronicle.run? [.called context operation] = some (chronicle.call context operation) := rfl
      have regular := ready.regular.run? ran
      have nothing : ∀ one ∈ ([] : List Surroundings), ∃ asked, one = around asked :=
        fun _ member => absurd member List.not_mem_nil
      refine ⟨chronicle.call context operation, ⟨⟨[], nothing, ran⟩, refused context chronicle.world.clock e, ?_,
        ?_⟩, ?_, ⟨regular, ?_⟩, rfl, ?_, ?_⟩
      · rw [world, ← number, List.getElem?_concat_length]
      · simp only [Operation.conduct, checked]
        rfl
      · simp only [Operation.conduct, checked, world]
        rfl
      · rw [world]
        exact ready.unarmed
      · rw [world]
      · intro other before session member
        rw [world] at member
        rcases List.mem_append.mp member with old | new
        · exact before session old
        · cases List.mem_singleton.mp new
          rintro (⟨lock, ⟨⟩⟩ | ⟨lock, ⟨⟩⟩)
  | ok _ =>
      have world : (chronicle.call context operation).world = chronicle.world.call context
          chronicle.world.clock (operation.work chronicle.defaultCurrency context.user) := by
        simp only [Chronicle.call, checked]
      have conduct : operation.conduct chronicle.defaultCurrency context.user chronicle.world.tables around =
          (operation.task chronicle.defaultCurrency context.user).conduct chronicle.world.tables around
            .empty 0 := by
        simp only [Operation.conduct, checked]
      rw [conduct, ← publish_eq]
      have called : chronicle.run? [.called context operation] = some (chronicle.call context operation) := rfl
      have solo := ready.solo_call checked untroubled inTime
      have towards : (opening chronicle context operation).Towards chronicle.world.tables around
          ((operation.task chronicle.defaultCurrency context.user).conduct chronicle.world.tables around .empty 0)
          id (chronicle.call context operation).world.tables :=
        .atWork 0 rfl (by rw [world]; rfl) rfl (operation.task_oneRow_of_changes changes _ _)
      have brief : (opening chronicle context operation).Brief (Operation.bound + 7) :=
        ⟨Operation.bound, Nat.le_refl _, (operation.work_brief _ _).task⟩
      obtain ⟨arounds, finish, last, through⟩ := solo.exists_goesThrough _ towards brief
      obtain ⟨after, ran, rfl⟩ := run?_advanced through.ran
      have ran' : chronicle.run? (.called context operation ::
          arounds.map (.advanced chronicle.calls.length)) = some after := ran
      have regular := ready.regular.run? ran'
      refine ⟨after, ⟨⟨arounds, through.own, ran'⟩, last, through.solo.known, through.ended⟩, through.published,
        ⟨regular, through.solo.unarmed⟩, defaultCurrency_run? ran', ?_, ?_⟩
      · rw [through.clock, world]
        rfl
      · intro other before session member
        obtain ⟨place, known⟩ := List.mem_iff_getElem?.mp member
        rcases World.session_after through.sessions known with ⟨_, rfl⟩ | ⟨different, there⟩
        · exact regular.not_isAfter_of_isOver member ⟨_, through.ended⟩ other
        · rw [world] at there
          rcases World.session_added rfl there with old | ⟨same, _⟩
          · exact before session (List.mem_of_getElem? old)
          · exact absurd (same.trans number) different

/-- Two operations that are to change different accounts can be carried out in either order, whatever they are,
whoever calls them, and whatever the tables are that they find: each comes to the same answer, and the tables show
the same afterwards.  So it is when they are executed, one after the other, in whatever state the ledger is, as
long as nobody is after their rows. -/
theorem operations_commute {defaultCurrency : Currency} {tables : Tables} {events : List Event}
    (ran : (Chronicle.start defaultCurrency tables).run? events = some chronicle)
    (unarmed : chronicle.world.faults = .none) {one two : Operation} {id id' : AccountId}
    (changes : one.changes? = some id) (changes' : two.changes? = some id') (apart : id ≠ id')
    (user user' : UserId) {around around' : Nat → Surroundings}
    (distinct : ∀ asked asked', (around asked).newId ≠ (around' asked').newId) :
    let first := one.conduct defaultCurrency user chronicle.world.tables around
    let first' := two.conduct defaultCurrency user' chronicle.world.tables around'
    let between := published chronicle.world.tables first
    let between' := published chronicle.world.tables first'
    let second := two.conduct defaultCurrency user' between around'
    let second' := one.conduct defaultCurrency user between' around
    (second'.1 = first.1 ∧ second.1 = first'.1 ∧
      ShowsAs (published between second) (published between' second')) ∧
    ∀ context context' : RequestContext, context.user = user → context'.user = user' →
      context.isExpired chronicle.world.clock = false → context'.isExpired chronicle.world.clock = false →
      chronicle.Untroubled id → chronicle.Untroubled id' →
        ∃ mid last mid' last', chronicle.Executes context one around first.1 mid ∧
          mid.Executes context' two around' first'.1 last ∧
          chronicle.Executes context' two around' first'.1 mid' ∧
          mid'.Executes context one around first.1 last' ∧
          ShowsAs last.world.tables last'.world.tables := by
  intro first first' between between' second second'
  have same : second' = first := Operation.conduct_behind changes changes' apart user user' distinct
  have same' : second = first' :=
    Operation.conduct_behind changes' changes apart.symm user' user fun asked asked' =>
      (distinct asked' asked).symm
  have shows : ShowsAs (published between second) (published between' second') := by
    have extended : between = chronicle.world.tables.extend (written first) := published_eq _ _
    have extended' : between' = chronicle.world.tables.extend (written first') := published_eq _ _
    rw [same, same', published_eq, published_eq, extended, extended']
    exact (Operation.confined_written changes _).showsAs (Operation.confined_written changes' _) apart.symm _
  refine ⟨⟨congrArg Prod.fst same, congrArg Prod.fst same', shows⟩, ?_⟩
  rintro context context' rfl rfl inTime inTime' untroubled untroubled'
  have ready : chronicle.Ready := ⟨(Regular.start defaultCurrency tables).run? ran, unarmed⟩
  cases defaultCurrency_run? ran
  obtain ⟨mid, executes, midTables, ready', currency, clock, still⟩ :=
    ready.exists_executes changes untroubled inTime around
  obtain ⟨last, executes', lastTables, _⟩ :=
    ready'.exists_executes changes' (still id' untroubled') (clock ▸ inTime') around'
  obtain ⟨mid', executes'', midTables', ready'', currency', clock', still'⟩ :=
    ready.exists_executes changes' untroubled' inTime' around'
  obtain ⟨last', executes''', lastTables', _⟩ :=
    ready''.exists_executes changes (still' id untroubled) (clock' ▸ inTime) around
  rw [currency, midTables] at executes' lastTables
  rw [currency', midTables'] at executes''' lastTables'
  refine ⟨mid, last, mid', last', executes, ?_, executes'', ?_, ?_⟩
  · exact same' ▸ executes'
  · exact same ▸ executes'''
  · rw [lastTables, lastTables']
    exact shows

/-- Two accounts are opened.  Then there is a deposit to the one, and the other is closed, in either order. -/
theorem operations_commute_deposit_closing :
    let id : AccountId := ⟨Uuid.ofNat 2⟩
    let id' : AccountId := ⟨Uuid.ofNat 3⟩
    let context := RequestContext.ofUser ⟨Uuid.ofNat 1⟩
    let around (number asked : Nat) : Surroundings :=
      ⟨⟨asked, 0⟩, Uuid.ofNat number, fun _ _ => .error .outOfRange⟩
    let steps (number : Nat) : List Event := List.replicate 13 (.advanced number (around (number + 2) 0))
    let events := .called context (.openAccount none) :: steps 0 ++
      .called context (.openAccount none) :: steps 1
    let deposit : Operation := .move .credit (.internal id (.exact ⟨10, .eur, by decide, by decide⟩))
    let closing : Operation := .closeAccount id'
    ∃ chronicle mid last mid' last' outcome, (Chronicle.start .eur .empty).run? events = some chronicle ∧
      outcome.value?.isSome = true ∧
      chronicle.Executes context deposit (around 4) outcome mid ∧
      mid.Executes context closing (around 5) (.completed .closed) last ∧
      chronicle.Executes context closing (around 5) (.completed .closed) mid' ∧
      mid'.Executes context deposit (around 4) outcome last' ∧
      ShowsAs last.world.tables last'.world.tables := by
  intro id id' context around steps events deposit closing
  have ends : ((Chronicle.start .eur .empty).run? events).map (fun chronicle =>
      (chronicle.world.faults, chronicle.world.sessions.all (·.phase.ending.isSome),
        (deposit.conduct .eur context.user chronicle.world.tables (around 4)).1.value?.isSome,
        (closing.conduct .eur context.user chronicle.world.tables (around 5)).1)) =
      some (.none, true, true, .completed .closed) := by
    decide +kernel
  obtain ⟨chronicle, ran, ends⟩ := Option.map_eq_some_iff.mp ends
  obtain ⟨unarmed, ends⟩ := Prod.mk.inj ends
  obtain ⟨ended, ends⟩ := Prod.mk.inj ends
  obtain ⟨deposited, closed⟩ := Prod.mk.inj ends
  have untroubled : ∀ row, chronicle.Untroubled row := by
    intro row session member
    obtain ⟨outcome, ending⟩ := Option.isSome_iff_exists.mp (List.all_eq_true.mp ended session member)
    exact ((Regular.start .eur .empty).run? ran).not_isAfter_of_isOver member
      ⟨outcome, Session.Phase.ending_eq_some_iff.mp ending⟩ row
  have changes : deposit.changes? = some id := rfl
  have changes' : closing.changes? = some id' := rfl
  have distinct : ∀ asked asked', (around 4 asked).newId ≠ (around 5 asked').newId := by
    intro asked asked'
    show Uuid.ofNat 4 ≠ Uuid.ofNat 5
    decide
  obtain ⟨_, either⟩ :=
    operations_commute ran unarmed changes changes' (by decide) context.user context.user distinct
  obtain ⟨mid, last, mid', last', executes⟩ :=
    either context context rfl rfl rfl rfl (untroubled id) (untroubled id')
  rw [closed] at executes
  exact ⟨chronicle, mid, last, mid', last', _, ran, deposited, executes⟩

end Chronicle

end Service

end Passbook

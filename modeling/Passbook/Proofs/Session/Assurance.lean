import Passbook.Proofs.Session.Staging
/-!
# Assurances

What comes of a unit of work whatever the others do meanwhile.  The committed tables may change between any
two of its accesses; all that it can expect of them is what holds of them at all times, and that the rows it
has locked are as it has found them.  A unit of work is assured of something if that comes of it under these
expectations alone, and a session that is assured stays so, by its own turns and by those of others.
-/

namespace Passbook.Session

open Store (Tables)

variable {ν α β : Type}

/-! ### Expectations -/

/-- What is to come of some work: its result, what it expects of the committed tables by then, and what it has
staged. -/
abbrev Goal (α : Type) := Except LedgerError α → (Tables → Prop) → Tables → Prop

/-- To what was expected is added that a row is as it has been found. -/
def Locked (expects : Tables → Prop) (id : AccountId) (row : Option Account) (tables : Tables) : Prop :=
  expects tables ∧ tables.account? id = row

/-- What is expected stays so as long as the tables are what they are at all times and the rows that are held
do not change. -/
def Steady (base : Tables → Prop) (held : AccountId → Prop) (expects : Tables → Prop) : Prop :=
  ∀ tables after, expects tables → base after →
    (∀ id, held id → after.account? id = tables.account? id) → expects after

/-- The goal that something holds of the result, of all committed tables that may be expected and of what is
staged. -/
def Settles (post : Except LedgerError α → Tables → Tables → Prop) : Goal α :=
  fun result expects staged => ∀ tables, expects tables → post result tables staged

/-! ### Assured tasks -/

/-- A task reaches its goal whatever it finds in committed tables that it may expect, if the identifiers that
it is handed out are fresh. -/
def Task.Assures (fresh : Uuid → Prop) (goal : Goal α) : Task ν α → (Tables → Prop) → Tables → Prop
  | .done result, expects, staged => goal result expects staged
  | .panic _, _, _ => False
  | .lockRow id next, expects, staged => ∀ found, expects found →
      next.Assures fresh goal (Locked expects id (found.account? id)) staged
  | .readAccount id next, expects, staged => ∀ found, expects found →
      (next (Tables.visibleAccount? found staged id)).Assures fresh goal expects staged
  | .readEntry id next, expects, staged => ∀ found, expects found →
      (next (Tables.visibleEntry? found staged id)).Assures fresh goal expects staged
  | .readHistory user account next, expects, staged => ∀ found, expects found →
      (next (Tables.visibleHistory found staged user account)).Assures fresh goal expects staged
  | .takeInsertFault next, expects, staged => ∀ armed, (next armed).Assures fresh goal expects staged
  | .putAccount account next, expects, staged => next.Assures fresh goal expects (staged.putAccount account)
  | .addEntry entry next, expects, staged => next.Assures fresh goal expects (staged.addEntry entry)
  | .now next, expects, staged => ∀ time, (next time).Assures fresh goal expects staged
  | .newId next, expects, staged => ∀ id, fresh id → (next id).Assures fresh goal expects staged
  | .convert _ _ next, expects, staged => ∀ answer, (next answer).Assures fresh goal expects staged
  | .sleep _ next, expects, staged => next.Assures fresh goal expects staged
  | .note _ next, expects, staged => next.Assures fresh goal expects staged

section Tasks

variable {fresh : Uuid → Prop} {goal : Goal α} {expects : Tables → Prop}
  {committed staged written : Tables} {learned readings : List Reading}

/-- A task is still assured after an access. -/
theorem Task.Assures.access {task next : Task ν α} (assured : task.Assures fresh goal expects staged)
    (access : Access committed task staged learned next written) (expected : expects committed)
    (handedOut : ∀ id, .newId id ∈ learned → fresh id) : next.Assures fresh goal expects written := by
  cases access with
  | readAccount | readEntry | readHistory => exact assured committed expected
  | takeInsertFault _ _ armed => exact assured armed
  | putAccount | addEntry | sleep | note => exact assured
  | now _ _ time => exact assured time
  | newId _ _ id => exact assured id (handedOut id List.mem_cons_self)
  | convert _ _ _ _ answer => exact assured answer

/-- A task that is carried out alone reaches its goal on the tables on which it is carried out. -/
theorem Task.Assures.execute {task : Task ν α} {outcome : Outcome α} :
    ∀ {expects staged readings}, task.Assures fresh goal expects staged → expects committed →
      (∀ id, .newId id ∈ readings → fresh id) →
        task.execute committed staged readings = some (outcome, written) →
          ∃ result expects', outcome = .ofResult result ∧ expects' committed ∧
            goal result expects' written := by
  induction task with
  | done result =>
      intro expects staged readings assured expected _ executed
      cases readings with
      | nil =>
          cases executed
          exact ⟨result, expects, rfl, expected, assured⟩
      | cons => cases executed
  | panic =>
      intro expects staged readings assured
      exact assured.elim
  | lockRow id next inductionHypothesis =>
      intro expects staged readings assured expected handedOut executed
      rw [Task.execute] at executed
      exact inductionHypothesis (assured committed expected) ⟨expected, rfl⟩ handedOut executed
  | readAccount id next inductionHypothesis | readEntry id next inductionHypothesis
  | readHistory user account next inductionHypothesis =>
      intro expects staged readings assured expected handedOut executed
      rw [Task.execute] at executed
      exact inductionHypothesis _ (assured committed expected) expected handedOut executed
  | putAccount account next inductionHypothesis | addEntry entry next inductionHypothesis
  | sleep millis next inductionHypothesis | note entry next inductionHypothesis =>
      intro expects staged readings assured expected handedOut executed
      rw [Task.execute] at executed
      exact inductionHypothesis assured expected handedOut executed
  | takeInsertFault next inductionHypothesis =>
      intro expects staged readings assured expected handedOut executed
      obtain ⟨armed, rest, rfl, executed⟩ := execute_takeInsertFault executed
      exact inductionHypothesis armed (assured armed) expected
        (fun id member => handedOut id (List.mem_cons_of_mem _ member)) executed
  | now next inductionHypothesis =>
      intro expects staged readings assured expected handedOut executed
      obtain ⟨time, rest, rfl, executed⟩ := execute_now executed
      exact inductionHypothesis time (assured time) expected
        (fun id member => handedOut id (List.mem_cons_of_mem _ member)) executed
  | newId next inductionHypothesis =>
      intro expects staged readings assured expected handedOut executed
      obtain ⟨id, rest, rfl, executed⟩ := execute_newId executed
      exact inductionHypothesis id (assured id (handedOut id List.mem_cons_self)) expected
        (fun other member => handedOut other (List.mem_cons_of_mem _ member)) executed
  | convert amount target next inductionHypothesis =>
      intro expects staged readings assured expected handedOut executed
      obtain ⟨answer, rest, rfl, executed⟩ := execute_convert executed
      exact inductionHypothesis answer (assured answer) expected
        (fun id member => handedOut id (List.mem_cons_of_mem _ member)) executed

end Tasks

/-! ### Store calls -/

/-- A row is staged, or the error of the rule for it is the answer. -/
def Writes (staged : Tables) (row : Except LedgerError Account) (answer : Except LedgerError Unit)
    (after : Tables) : Prop :=
  match row with
  | .error e => answer = .error e ∧ after = staged
  | .ok account => answer = .ok () ∧ after = staged.putAccount account

theorem Writes.of_error {staged after : Tables} {row : Except LedgerError Account} {e : LedgerError}
    (writes : Writes staged row (.error e) after) : row = .error e ∧ after = staged := by
  cases row with
  | error _ =>
      cases writes.1
      exact ⟨rfl, writes.2⟩
  | ok _ => cases writes.1

theorem Writes.of_ok {staged after : Tables} {row : Except LedgerError Account}
    (writes : Writes staged row (.ok ()) after) :
    ∃ account, row = .ok account ∧ after = staged.putAccount account := by
  cases row with
  | error _ => cases writes.1
  | ok account => exact ⟨account, rfl, writes.2⟩

/-- The law of a store call: what it may answer, what may be expected of the committed tables after it, and
what is staged then. -/
def Serves (expects : Tables → Prop) (staged : Tables) :
    (query : Store.Call) → Except LedgerError query.Answer → (Tables → Prop) → Tables → Prop
  | .account id, answer, expects', after => ∃ found, expects found ∧
      answer = Store.requireLive id (Tables.visibleAccount? found staged id) ∧
        expects' = expects ∧ after = staged
  | .accountIncludingClosed id, answer, expects', after => ∃ found, expects found ∧
      answer = Store.requireAccount id (Tables.visibleAccount? found staged id) ∧
        expects' = expects ∧ after = staged
  | .accountForUpdate id, answer, expects', after => ∃ found, expects found ∧
      answer = Store.requireLive id (Tables.visibleAccount? found staged id) ∧
        expects' = Locked expects id (found.account? id) ∧ after = staged
  | .createAccount account, answer, expects', after => ∃ found, expects found ∧
      expects' = Locked expects account.id (found.account? account.id) ∧
        Writes staged (Store.newRow account (Tables.visibleAccount? found staged account.id)) answer after
  | .updateAccount account, answer, expects', after => ∃ found, expects found ∧
      expects' = Locked expects account.id (found.account? account.id) ∧
        Writes staged (Store.updatedRow account (Tables.visibleAccount? found staged account.id)) answer
          after
  | .deleteAccount id, answer, expects', after => ∃ found now, expects found ∧
      expects' = Locked expects id (found.account? id) ∧
        Writes staged (Store.closedRow id now (Tables.visibleAccount? found staged id)) answer after
  | .createEntry entry, answer, expects', after => expects' = expects ∧
      ((∃ e, answer = .error e ∧ after = staged) ∨
        answer = .ok () ∧ after = staged.addEntry entry ∧ ∃ found, expects found ∧
          Store.requireFresh entry (Tables.visibleEntry? found staged entry.id) = .ok ())
  | .entry id, answer, expects', after => ∃ found, expects found ∧
      answer = Store.requireEntry id (Tables.visibleEntry? found staged id) ∧
        expects' = expects ∧ after = staged
  | .history user account, answer, expects', after => ∃ found, expects found ∧
      answer = .ok (Tables.visibleHistory found staged user account) ∧ expects' = expects ∧ after = staged

section Calls

variable {fresh : Uuid → Prop} {goal : Goal α} {expects : Tables → Prop} {staged : Tables}

private theorem write_assures {row : Except LedgerError Account} {next : Except LedgerError Unit → Task ν α}
    (assured : ∀ answer after, Writes staged row answer after →
      (next answer).Assures fresh goal expects after) :
    (perform.write row next).Assures fresh goal expects staged := by
  cases row with
  | error e => exact assured (.error e) staged ⟨rfl, rfl⟩
  | ok account => exact assured (.ok ()) _ ⟨rfl, rfl⟩

/-- A store call is made as its law says: what follows need only be assured for what the law allows. -/
theorem perform_assures {query : Store.Call} {next : Except LedgerError query.Answer → Task ν α}
    (assured : ∀ answer expects' after, Serves expects staged query answer expects' after →
      (next answer).Assures fresh goal expects' after) :
    (perform query next).Assures fresh goal expects staged := by
  cases query with
  | account id | accountIncludingClosed id | entry id =>
      intro found expected
      exact assured _ _ _ ⟨found, expected, rfl, rfl, rfl⟩
  | history user account =>
      intro found expected
      exact assured _ _ _ ⟨found, expected, rfl, rfl, rfl⟩
  | accountForUpdate id =>
      intro first _ found locked
      refine assured _ _ _ ⟨found, locked.1, rfl, ?_, rfl⟩
      rw [locked.2]
  | createAccount account | updateAccount account =>
      intro first _ found locked
      refine write_assures fun answer after writes => assured answer _ after ⟨found, locked.1, ?_, writes⟩
      rw [locked.2]
  | deleteAccount id =>
      intro first _ found locked
      have same : Locked expects id (first.account? id) = Locked expects id (found.account? id) := by
        rw [locked.2]
      cases live : Store.requireLive id (Tables.visibleAccount? found staged id) with
      | error e =>
          simp only [live]
          refine assured _ _ _ ⟨found, ⟨0, 0⟩, locked.1, same, ?_⟩
          rw [Store.closedRow, live]
          exact ⟨rfl, rfl⟩
      | ok _ =>
          simp only [live]
          intro now
          exact write_assures fun answer after writes =>
            assured answer _ after ⟨found, now, locked.1, same, writes⟩
  | createEntry entry =>
      have refuses : ∀ e, (next (.error e)).Assures fresh goal expects staged :=
        fun e => assured _ _ _ ⟨rfl, .inl ⟨e, rfl, rfl⟩⟩
      intro armed
      cases armed with
      | true => exact refuses _
      | false =>
          intro found _
          dsimp only
          split
          · exact refuses _
          · intro found expected
            dsimp only
            split
            · exact refuses _
            · rename_i isFresh
              exact assured _ _ _ ⟨rfl, .inr ⟨rfl, rfl, found, expected, isFresh⟩⟩

end Calls

/-! ### Assured work -/

/-- A unit of work reaches its goal whatever its store calls answer under their laws, if the identifiers that
it is handed out are fresh. -/
def Work.Assures (fresh : Uuid → Prop) (goal : Goal α) : Work ν α → (Tables → Prop) → Tables → Prop
  | .done result, expects, staged => goal result expects staged
  | .panic _, _, _ => False
  | .call query next, expects, staged => ∀ answer expects' after,
      Serves expects staged query answer expects' after → (next answer).Assures fresh goal expects' after
  | .now next, expects, staged => ∀ time, (next time).Assures fresh goal expects staged
  | .newId next, expects, staged => ∀ id, fresh id → (next id).Assures fresh goal expects staged
  | .convert _ _ next, expects, staged => ∀ answer, (next answer).Assures fresh goal expects staged
  | .sleep _ next, expects, staged => next.Assures fresh goal expects staged
  | .note _ next, expects, staged => next.Assures fresh goal expects staged

namespace Work.Assures

variable {fresh : Uuid → Prop} {goal : Goal β} {expects : Tables → Prop} {staged : Tables}

/-- Work goes on as long as there is no error. -/
theorem bind {work : Work ν α} {f : α → Work ν β} :
    ∀ {expects staged}, work.Assures fresh (fun result expects staged =>
        match result with
        | .ok a => (f a).Assures fresh goal expects staged
        | .error e => goal (.error e) expects staged) expects staged →
      (work >>= f).Assures fresh goal expects staged := by
  induction work with
  | done result =>
      intro expects staged assured
      cases result with
      | ok a => exact assured
      | error e => exact assured
  | panic text =>
      intro expects staged assured
      exact assured
  | call query next inductionHypothesis =>
      intro expects staged assured answer expects' after serves
      exact inductionHypothesis answer (assured answer expects' after serves)
  | now next inductionHypothesis =>
      intro expects staged assured time
      exact inductionHypothesis time (assured time)
  | newId next inductionHypothesis =>
      intro expects staged assured id isFresh
      exact inductionHypothesis id (assured id isFresh)
  | convert amount target next inductionHypothesis =>
      intro expects staged assured answer
      exact inductionHypothesis answer (assured answer)
  | sleep millis next inductionHypothesis =>
      intro expects staged assured
      exact inductionHypothesis assured
  | note entry next inductionHypothesis =>
      intro expects staged assured
      exact inductionHypothesis assured

theorem map {work : Work ν α} {f : α → β}
    (assured : work.Assures fresh (fun result => goal (f <$> result)) expects staged) :
    (f <$> work).Assures fresh goal expects staged := by
  apply bind
  have same : (fun result => goal (f <$> result)) = fun result expects staged =>
      match result with
      | .ok a => (done (.ok (f a)) : Work ν β).Assures fresh goal expects staged
      | .error e => goal (.error e) expects staged := by
    funext result
    cases result <;> rfl
  rwa [same] at assured

/-- A result that may be an error. -/
theorem ofExcept {result : Except LedgerError α} {f : α → Work ν β}
    (refuses : ∀ e, result = .error e → goal (.error e) expects staged)
    (goesOn : ∀ a, result = .ok a → (f a).Assures fresh goal expects staged) :
    (Work.ofExcept result >>= f).Assures fresh goal expects staged := by
  cases result with
  | error e => exact refuses e rfl
  | ok a => exact goesOn a rfl

/-- A store call, by its law. -/
theorem ask {query : Store.Call} {f : query.Answer → Work ν β}
    (refuses : ∀ e expects' after, Serves expects staged query (.error e) expects' after →
      goal (.error e) expects' after)
    (goesOn : ∀ answer expects' after, Serves expects staged query (.ok answer) expects' after →
      (f answer).Assures fresh goal expects' after) :
    (Work.ask query >>= f).Assures fresh goal expects staged := by
  intro answer expects' after serves
  cases answer with
  | error e => exact refuses e expects' after serves
  | ok answer => exact goesOn answer expects' after serves

theorem clock {f : Timestamp → Work ν β}
    (assured : ∀ time, (f time).Assures fresh goal expects staged) :
    (Work.clock >>= f).Assures fresh goal expects staged :=
  assured

theorem freshId {f : Uuid → Work ν β}
    (assured : ∀ id, fresh id → (f id).Assures fresh goal expects staged) :
    (Work.freshId >>= f).Assures fresh goal expects staged :=
  assured

/-- What a unit of work is assured of, its task is assured of. -/
theorem task {work : Work ν β} :
    ∀ {expects staged}, work.Assures fresh goal expects staged →
      work.task.Assures fresh goal expects staged := by
  induction work with
  | done | panic => intro expects staged assured; exact assured
  | call query next inductionHypothesis =>
      intro expects staged assured
      exact perform_assures fun answer expects' after serves =>
        inductionHypothesis answer (assured answer expects' after serves)
  | now next inductionHypothesis =>
      intro expects staged assured time
      exact inductionHypothesis time (assured time)
  | newId next inductionHypothesis =>
      intro expects staged assured id isFresh
      exact inductionHypothesis id (assured id isFresh)
  | convert amount target next inductionHypothesis =>
      intro expects staged assured answer
      exact inductionHypothesis answer (assured answer)
  | sleep millis next inductionHypothesis =>
      intro expects staged assured
      exact inductionHypothesis assured
  | note entry next inductionHypothesis =>
      intro expects staged assured
      exact inductionHypothesis assured

end Work.Assures

/-! ### Assured sessions -/

/-- A run that has come to no result of its own: it was given up, or its time was over, or it was hit by an
injected fault. -/
def Outcome.BrokenOff (outcome : Outcome α) : Prop :=
  outcome = .cancelled ∨ outcome = .failed .timeout ∨
    ∃ place, outcome = .failed (Store.injected place)

/-- An outcome is as its result should be, or the run was broken off. -/
inductive Outcome.Meets (post : Except LedgerError α → Prop) : Outcome α → Prop where
  | completed {value : α} (meets : post (.ok value)) : Meets post (.completed value)
  | failed {e : LedgerError} (meets : post (.error e)) : Meets post (.failed e)
  | brokenOff {outcome : Outcome α} (off : outcome.BrokenOff) : Meets post outcome

/-- A session is assured of what its result will be: for the committed tables at the time at which its outcome
is decided, and for what it has staged then. -/
structure Session.Assured (fresh : Uuid → Prop) (base : Tables → Prop)
    (post : Except LedgerError α → Tables → Tables → Prop) (committed : Tables) (session : Session ν α) :
    Prop where
  atWork : ∀ task, session.phase.remaining = some task →
    ∃ expects, expects committed ∧ Steady base session.Holds expects ∧
      task.Assures fresh (Settles post) expects session.staged
  decided : ∀ outcome, session.phase.outcome = some outcome →
    outcome.Meets fun result => ∃ tables staged, base tables ∧ post result tables staged

namespace Session.Assured

variable {fresh : Uuid → Prop} {base : Tables → Prop}
  {post : Except LedgerError α → Tables → Tables → Prop} {committed after : Tables} {clock : Nat}
  {session next : Session ν α} {learned : List Reading}

theorem opening {work : Work ν α} (assures : work.Assures fresh (Settles post) base .empty)
    (based : base committed) (context : RequestContext) (start since : Nat) :
    Session.Assured fresh base post committed
      ⟨context, .opening start work.task, since, [], .empty, []⟩ where
  atWork := by
    rintro _ ⟨rfl⟩
    exact ⟨base, based, fun _ _ _ based _ => based, assures.task⟩
  decided := by
    intro outcome decided
    cases decided

theorem of_decided {outcome : Outcome α} (decided : session.phase.outcome = some outcome)
    (meets : outcome.Meets fun result => ∃ tables staged, base tables ∧ post result tables staged) :
    session.Assured fresh base post committed where
  atWork := by
    intro task remaining
    rw [Phase.remaining_of_outcome decided] at remaining
    cases remaining
  decided := by
    intro other decided'
    rw [decided] at decided'
    cases decided'
    exact meets

theorem of_atWork {task : Task ν α} {expects : Tables → Prop}
    (remaining : session.phase.remaining = some task) (expected : expects committed)
    (steady : Steady base session.Holds expects)
    (assured : task.Assures fresh (Settles post) expects session.staged) :
    session.Assured fresh base post committed where
  atWork := by
    intro task' remaining'
    rw [remaining] at remaining'
    cases remaining'
    exact ⟨expects, expected, steady, assured⟩
  decided := by
    intro outcome decided
    rw [Phase.remaining_of_outcome decided] at remaining
    cases remaining

/-- A result that a session has come to is as it should be. -/
theorem result (assured : session.Assured fresh base post committed) {result : Except LedgerError α}
    (remaining : session.phase.remaining = some (.done result)) : post result committed session.staged := by
  obtain ⟨expects, expected, _, settles⟩ := assured.atWork _ remaining
  exact settles committed expected

/-- A turn that decides the outcome of a session breaks it off, or decides it as its result should be. -/
theorem decides (assured : session.Assured fresh base post committed)
    (turn : Turn committed clock session learned next after) (undecided : session.phase.outcome = none)
    {outcome : Outcome α} (decided : next.phase.outcome = some outcome) :
    outcome.BrokenOff ∨
      ∃ result, outcome = .ofResult result ∧ post result committed session.staged := by
  have working : ∀ {task : Task ν α}, next.phase.remaining ≠ some task := by
    intro task remaining
    rw [Phase.outcome_eq_none_of_remaining remaining] at decided
    cases decided
  cases remaining : session.phase.remaining with
  | none =>
      obtain ⟨_, decided'⟩ := Phase.remaining_eq_none_iff.mp remaining
      rw [undecided] at decided'
      cases decided'
  | some task =>
      cases turn.works remaining with
      | stays remaining' | locks _ remaining' => exact absurd remaining' working
      | access => cases decided
      | lapses lapses decided' =>
          rw [decided] at decided'
          cases decided'
          cases lapses with
          | refused e => exact .inr ⟨.error e, rfl, assured.result remaining⟩
          | brokeDown =>
              obtain ⟨_, _, _, reaches⟩ := assured.atWork _ remaining
              exact absurd reaches id
          | begin | commit => exact .inl (.inr (.inr ⟨_, rfl⟩))
          | overdue => exact .inl (.inr (.inl rfl))
          | cancelled => exact .inl (.inl rfl)
      | @publishes value _ before decided' =>
          rw [decided] at decided'
          cases decided'
          exact .inr ⟨.ok value, rfl, assured.result (before ▸ remaining)⟩

/-- A session that is assured stays so by its own turns. -/
theorem turn (assured : session.Assured fresh base post committed) (based : base committed)
    (handedOut : ∀ id, .newId id ∈ learned → fresh id)
    (turn : Turn committed clock session learned next after) :
    next.Assured fresh base post after := by
  cases remaining : session.phase.remaining with
  | none =>
      obtain ⟨outcome, decided⟩ := Phase.remaining_eq_none_iff.mp remaining
      exact .of_decided (turn.outcome_eq decided) (assured.decided outcome decided)
  | some task =>
      obtain ⟨expects, expected, steady, reaches⟩ := assured.atWork task remaining
      have undecided := Phase.outcome_eq_none_of_remaining remaining
      have settled : ∀ {outcome : Outcome α}, next.phase.outcome = some outcome →
          next.Assured fresh base post after := by
        intro outcome decided
        refine .of_decided decided ?_
        rcases assured.decides turn undecided decided with off | ⟨result, rfl, meets⟩
        · exact .brokenOff off
        · cases result with
          | ok value => exact .completed ⟨committed, session.staged, based, meets⟩
          | error e => exact .failed ⟨committed, session.staged, based, meets⟩
      cases turn.works remaining with
      | stays remaining' held staged =>
          have holds : next.Holds = session.Holds := by
            funext id
            simp [Session.Holds, held]
          exact .of_atWork remaining' expected (holds ▸ steady) (staged ▸ reaches)
      | @locks id _ _ before remaining' holds staged =>
          subst before
          refine .of_atWork remaining' ⟨expected, rfl⟩ ?_ (staged ▸ reaches committed expected)
          rintro tables later ⟨expected', row⟩ based' own
          rw [holds] at own
          refine ⟨steady tables later expected' based' fun other held => own other (.inr held), ?_⟩
          rw [own id (.inl rfl), row]
      | access access =>
          exact .of_atWork rfl expected steady (reaches.access access expected handedOut)
      | lapses _ decided | publishes _ decided => exact settled decided

/-- A session that is assured stays so when others change rows that it has not locked. -/
theorem others (assured : session.Assured fresh base post committed) (based : base after)
    (own : ∀ id, session.Holds id → after.account? id = committed.account? id) :
    session.Assured fresh base post after where
  atWork := by
    intro task remaining
    obtain ⟨expects, expected, steady, reaches⟩ := assured.atWork task remaining
    exact ⟨expects, steady committed after expected based own, steady, reaches⟩
  decided := assured.decided

end Session.Assured

/-! ### Assurances in a world -/

namespace World

variable {fresh : Uuid → Prop} {base : Tables → Prop}
  {post : Except LedgerError α → Tables → Tables → Prop} {world after : World ν α} {number : Nat}
  {event : Event ν α}

def Assures (world : World ν α) (fresh : Uuid → Prop) (base : Tables → Prop)
    (post : Except LedgerError α → Tables → Tables → Prop) (number : Nat) : Prop :=
  ∃ session, world.sessions[number]? = some session ∧ session.Assured fresh base post world.tables

/-- Every event leaves a session assured, as long as the tables are what they are at all times. -/
theorem Assures.after? (assures : world.Assures fresh base post number) (order : world.InOrder)
    (based : base world.tables) (based' : base after.tables)
    (handedOut : ∀ id, .newId id ∈ world.toldTo number event → fresh id)
    (happened : world.after? event = some after) : after.Assures fresh base post number := by
  obtain ⟨session, known, assured⟩ := assures
  obtain ⟨bound, _⟩ := List.getElem?_eq_some_iff.mp known
  cases after?_happens happened with
  | called context work _ eq =>
      subst eq
      exact ⟨session, session_kept rfl known, assured⟩
  | @turned mover next other moverKnown sessions turn =>
      by_cases mine : other = number
      · subst mine
        rw [known] at moverKnown
        cases moverKnown
        exact ⟨next, by rw [sessions, List.getElem?_set_self bound], assured.turn based handedOut turn⟩
      · refine ⟨session, by rw [sessions, List.getElem?_set_ne mine, known], assured.others based' ?_⟩
        intro id holds
        refine turn.account?_of_not_holds (order.staged moverKnown) ?_
        exact fun holds' => mine (order.locks.exclusive known moverKnown holds holds').symm
  | aside sessions tables =>
      rw [Assures, sessions, tables]
      exact ⟨session, known, assured⟩

end World

end Passbook.Session

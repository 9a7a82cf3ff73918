import Passbook.Proofs.Session.Staging
/-!
# Waiting

Row locks keep two sessions apart only where both are after one row.  A session that waits does so for a
session that has got the lock of this very row, and nothing else but time can keep it from going on; and as
long as a session has a row locked, nobody else changes what is committed there.
-/

namespace Passbook.Session

open Store (Tables)

variable {ν α : Type}

def Event.turnOf : Event ν α → Option Nat
  | .advanced number _ | .expired number | .cancelled number => some number
  | .called _ _ | .ticked _ | .armed _ => none

/-! ### Turns of others -/

namespace World

variable {world after : World ν α} {event : Event ν α} {number : Nat} {session : Session ν α}

/-- An event that is the turn of a session is a turn of it in the world. -/
theorem after?_turnOf (happened : world.after? event = some after) (mover : event.turnOf = some number) :
    ∃ learned, world.Turned number learned after := by
  cases event with
  | advanced other around =>
      cases mover
      exact ⟨_, advance_turned happened⟩
  | expired other =>
      cases mover
      exact ⟨_, expire_turned happened⟩
  | cancelled other =>
      cases mover
      exact ⟨_, cancel_turned happened⟩
  | called | ticked | armed => cases mover

/-- Nothing is committed by an event that is no turn. -/
theorem tables_of_no_turn (happened : world.after? event = some after) (still : event.turnOf = none) :
    after.tables = world.tables := by
  cases event with
  | called | ticked | armed =>
      cases happened
      rfl
  | advanced | expired | cancelled => cases still

/-- A session is as it was after the turn of another. -/
theorem session_of_not_turnOf (known : world.sessions[number]? = some session)
    (happened : world.after? event = some after) (other : event.turnOf ≠ some number) :
    after.sessions[number]? = some session := by
  cases mover : event.turnOf with
  | none =>
      cases event with
      | called context work =>
          cases happened
          exact session_kept rfl known
      | ticked | armed =>
          cases happened
          exact known
      | advanced | expired | cancelled => cases mover
  | some mover' =>
      obtain ⟨learned, moved, next, _, sessions, _⟩ := after?_turnOf happened mover
      have different : mover' ≠ number := fun same => other (same ▸ mover)
      rw [sessions, List.getElem?_set_ne different, known]

/-- What is committed of a row that a session has locked is not changed by the turn of another. -/
theorem InOrder.account?_of_not_turnOf (order : world.InOrder)
    (known : world.sessions[number]? = some session) {id : AccountId} (holds : session.Holds id)
    (happened : world.after? event = some after) (other : event.turnOf ≠ some number) :
    after.tables.account? id = world.tables.account? id := by
  cases mover : event.turnOf with
  | none => rw [tables_of_no_turn happened mover]
  | some mover' =>
      obtain ⟨learned, moved, next, known', _, turn⟩ := after?_turnOf happened mover
      refine turn.account?_of_not_holds (order.staged known') fun holds' => other ?_
      rw [mover, order.locks.exclusive known known' holds holds']

end World

/-! ### From locking a row to giving it up -/

section Turns

variable {committed after : Tables} {clock : Nat} {session next : Session ν α} {learned : List Reading}

/-- A session whose outcome is decided locks nothing. -/
theorem Turn.holds_of_decided (turn : Turn committed clock session learned next after)
    {outcome : Outcome α} (decided : session.phase.outcome = some outcome) {id : AccountId}
    (holds : next.Holds id) : session.Holds id := by
  cases turn with
  | release before =>
      obtain ⟨lock, held⟩ := holds
      exact ⟨lock, List.mem_of_mem_tail held⟩
  | finish before => exact holds
  | pass _ before | lock _ before | lockAgain before | lapse before =>
      rw [Phase.outcome_eq_none_of_remaining before] at decided
      cases decided
  | approve before | access before | miss before | publish before =>
      rw [before] at decided
      cases decided

/-- A session keeps the rows it has locked, and publishes nothing, until its outcome is decided. -/
theorem Turn.keeps (turn : Turn committed clock session learned next after)
    (undecided : next.phase.outcome = none) :
    (∀ id, session.Holds id → next.Holds id) ∧ after = committed := by
  have open' : ∃ task, session.phase.remaining = some task := by
    cases remaining : session.phase.remaining with
    | some task => exact ⟨task, rfl⟩
    | none =>
        obtain ⟨outcome, decided⟩ := Phase.remaining_eq_none_iff.mp remaining
        rw [turn.outcome_eq decided] at undecided
        cases undecided
  obtain ⟨task, remaining⟩ := open'
  cases turn.works remaining with
  | stays _ held =>
      refine ⟨?_, rfl⟩
      rintro id ⟨lock, has⟩
      exact ⟨lock, held ▸ has⟩
  | locks _ _ holds =>
      refine ⟨?_, rfl⟩
      intro id has
      rw [holds]
      exact .inr has
  | access => exact ⟨fun _ has => has, rfl⟩
  | lapses _ decided | publishes _ decided =>
      rw [decided] at undecided
      cases undecided

/-- A session has given up a row for good. -/
def Session.HasGivenUp (session : Session ν α) (id : AccountId) : Prop :=
  (∃ outcome, session.phase.outcome = some outcome) ∧ ¬session.Holds id

theorem Turn.hasGivenUp (turn : Turn committed clock session learned next after) {id : AccountId}
    (gone : session.HasGivenUp id) : next.HasGivenUp id := by
  obtain ⟨⟨outcome, decided⟩, free⟩ := gone
  exact ⟨⟨outcome, turn.outcome_eq decided⟩, fun holds => free (turn.holds_of_decided decided holds)⟩

/-- A session that has a row locked has it locked still or has given it up for good. -/
theorem Turn.holds_or_hasGivenUp (turn : Turn committed clock session learned next after)
    {id : AccountId} (holds : session.Holds id) : next.Holds id ∨ next.HasGivenUp id := by
  by_cases still : next.Holds id
  · exact .inl still
  · refine .inr ⟨?_, still⟩
    cases decided : next.phase.outcome with
    | some outcome => exact ⟨outcome, rfl⟩
    | none => exact absurd ((turn.keeps decided).1 id holds) still

end Turns

namespace World

variable {world later : World ν α} {number : Nat} {session session' : Session ν α} {id : AccountId}

/-- What a session has given up it has given up for good. -/
theorem run?_hasGivenUp {events : List (Event ν α)}
    (gone : ∃ session, world.sessions[number]? = some session ∧ session.HasGivenUp id)
    (ran : world.run? events = some later) :
    ∃ session, later.sessions[number]? = some session ∧ session.HasGivenUp id :=
  run?_keeps (motive := (·.HasGivenUp id)) (fun gone turn => turn.hasGivenUp gone) gone ran

theorem run?_holds_or_hasGivenUp {events : List (Event ν α)}
    (known : world.sessions[number]? = some session) (holds : session.Holds id)
    (ran : world.run? events = some later) :
    ∃ session, later.sessions[number]? = some session ∧ (session.Holds id ∨ session.HasGivenUp id) := by
  refine run?_keeps (motive := fun session => session.Holds id ∨ session.HasGivenUp id) ?_
    ⟨session, known, .inl holds⟩ ran
  rintro _ _ _ one other _ (still | gone) turn
  · exact turn.holds_or_hasGivenUp still
  · exact .inr (turn.hasGivenUp gone)

/-- A session that has a row locked at first and at last has had it locked all the time. -/
theorem holds_throughout {earlier rest : List (Event ν α)} {mid : World ν α}
    (known : world.sessions[number]? = some session) (holds : session.Holds id)
    (ran : world.run? earlier = some mid) (ran' : mid.run? rest = some later)
    (known' : later.sessions[number]? = some session') (holds' : session'.Holds id) :
    ∃ found, mid.sessions[number]? = some found ∧ found.Holds id := by
  obtain ⟨found, here, still | gone⟩ := run?_holds_or_hasGivenUp known holds ran
  · exact ⟨found, here, still⟩
  · obtain ⟨last, there, _, free⟩ := run?_hasGivenUp ⟨found, here, gone⟩ ran'
    rw [known'] at there
    cases there
    exact absurd holds' free

/-- From the moment on at which a session has locked a row, until its outcome is decided, it has the row
locked and the row is what it was. -/
theorem InOrder.row_kept (order : world.InOrder) {events : List (Event ν α)}
    (known : world.sessions[number]? = some session) (holds : session.Holds id)
    (ran : world.run? events = some later) (known' : later.sessions[number]? = some session')
    (undecided : session'.phase.outcome = none) :
    session'.Holds id ∧ later.tables.account? id = world.tables.account? id := by
  -- At every moment the outcome is decided, or the row is locked and what it was.
  have kept : later.InOrder ∧ ∃ found, later.sessions[number]? = some found ∧
      (found.phase.outcome = none →
        found.Holds id ∧ later.tables.account? id = world.tables.account? id) := by
    refine run?_induction (motive := fun next => next.InOrder ∧ ∃ found,
      next.sessions[number]? = some found ∧ (found.phase.outcome = none →
        found.Holds id ∧ next.tables.account? id = world.tables.account? id))
      ⟨order, session, known, fun _ => ⟨holds, rfl⟩⟩ ?_ ran
    rintro before next event ⟨order', found, here, kept⟩ happened
    refine ⟨order'.after? happened, ?_⟩
    by_cases mine : event.turnOf = some number
    · obtain ⟨learned, found', next', here', sessions, turn⟩ := after?_turnOf happened mine
      rw [here] at here'
      cases here'
      obtain ⟨bound, _⟩ := List.getElem?_eq_some_iff.mp here
      refine ⟨next', by rw [sessions, List.getElem?_set_self bound], ?_⟩
      intro open'
      have open'' : found.phase.outcome = none := by
        cases decided : found.phase.outcome with
        | none => rfl
        | some outcome =>
            rw [turn.outcome_eq decided] at open'
            cases open'
      obtain ⟨still, same⟩ := kept open''
      obtain ⟨keeps, unchanged⟩ := turn.keeps open'
      exact ⟨keeps id still, by rw [unchanged, same]⟩
    · refine ⟨found, session_of_not_turnOf here happened mine, ?_⟩
      intro open'
      obtain ⟨still, same⟩ := kept open'
      exact ⟨still, (order'.account?_of_not_turnOf here still happened mine).trans same⟩
  obtain ⟨_, found, here, kept⟩ := kept
  rw [known'] at here
  cases here
  exact kept undecided

/-! ### Who waits for whom -/

/-- A session has got the lock of a row: it has locked the row, or it waits and has been given the lock just
now. -/
inductive HasLock (world : World ν α) (number : Nat) (id : AccountId) : Prop where
  | locked {session : Session ν α} (known : world.sessions[number]? = some session)
      (holds : session.Holds id)
  | given {session : Session ν α} {lock : Nat} {queue : List Nat} {next : Task ν α}
      (known : world.sessions[number]? = some session) (waits : session.phase = .waiting id lock next)
      (given : world.locks[lock]? = some ⟨some number, queue⟩)

/-- Whoever has got the lock of a row refers to a lock object that is in its hands. -/
theorem HasLock.refers (order : world.LocksInOrder) (has : world.HasLock number id) :
    ∃ session lock l, world.sessions[number]? = some session ∧ session.Refers id lock ∧
      world.locks[lock]? = some l ∧ l.holder = some number := by
  cases has with
  | locked known holds =>
      obtain ⟨lock, held⟩ := holds
      obtain ⟨l, here, holder⟩ := order.given known held
      exact ⟨_, lock, l, known, .inl held, here, holder⟩
  | given known waits given =>
      exact ⟨_, _, _, known, .inr (.inr (by rw [waits]; rfl)), given, rfl⟩

/-- One session at a time has got the lock of a row. -/
theorem HasLock.unique (order : world.LocksInOrder) {other : Nat} (has : world.HasLock number id)
    (has' : world.HasLock other id) : number = other := by
  obtain ⟨session, lock, l, known, refers, here, holder⟩ := has.refers order
  obtain ⟨session', lock', l', known', refers', here', holder'⟩ := has'.refers order
  have registered := order.registered known refers
  rw [order.registered known' refers'] at registered
  cases registered
  rw [here] at here'
  cases here'
  rw [holder] at holder'
  exact Option.some.inj holder'

/-- If a session waits for a row, some session has got its lock. -/
theorem LocksInOrder.hasLock_of_waits (order : world.LocksInOrder)
    (known : world.sessions[number]? = some session) {lock : Nat} {next : Task ν α}
    (waits : session.phase = .waiting id lock next) :
    ∃ holder queue, world.locks[lock]? = some ⟨some holder, queue⟩ ∧ world.HasLock holder id := by
  have asked : session.phase.asked = some (id, lock) := by rw [waits]; rfl
  have refers : session.Refers id lock := .inr (.inr asked)
  obtain ⟨⟨holder, queue⟩, here⟩ := order.exists_lock known refers
  have inLine : number ∈ RowLock.line ⟨holder, queue⟩ :=
    (order.inLine here number).mpr ⟨session, known, id, .inr asked⟩
  cases holder with
  | none =>
      have empty : queue = [] := (order.orderly here).idle rfl
      simp [RowLock.line, empty] at inLine
  | some holder =>
      refine ⟨holder, queue, here, ?_⟩
      -- The session that has got the lock object stands in line for it, and for this row.
      obtain ⟨first, known', id', has⟩ := (order.inLine here holder).mp (by simp [RowLock.line])
      have refers' : first.Refers id' lock := has.imp (fun held => held) .inr
      have same : id' = id := order.unique known' refers' known refers
      subst same
      rcases has with held | asked'
      · exact .locked known' ⟨lock, held⟩
      · cases phase : first.phase with
        | waiting id' lock' next' =>
            rw [phase] at asked'
            cases asked'
            exact .given known' phase here
        | _ =>
            rw [phase] at asked'
            cases asked'

/-- A session that waits goes on unless another session has got the lock. -/
theorem LocksInOrder.advance_eq_none_of_waits (order : world.LocksInOrder)
    (known : world.sessions[number]? = some session) {lock : Nat} {next : Task ν α}
    (waits : session.phase = .waiting id lock next) (around : Surroundings) :
    world.advance number around = none ↔ ∃ holder, holder ≠ number ∧ world.HasLock holder id := by
  obtain ⟨holder, queue, here, has⟩ := order.hasLock_of_waits known waits
  constructor
  · intro stuck
    refine ⟨holder, ?_, has⟩
    rintro rfl
    simp [advance, known, waits, here] at stuck
  · rintro ⟨other, different, has'⟩
    have same := has.unique order has'
    simp [advance, known, waits, here, same, different]

/-- The reasons for which a session takes no step: it is over, or its time has not come, or another session
has got the lock of the row it waits for. -/
inductive Rests (world : World ν α) (number : Nat) (session : Session ν α) : Prop where
  | over (ended : session.IsOver)
  | early {start : Nat} {task : Task ν α} (opening : session.phase = .opening start task)
      (time : world.clock < start)
  | asleep {millis : Nat} {next : Task ν α} (sleeps : session.phase = .running (.sleep millis next))
      (time : world.clock < session.since + millis)
  | blocked {id : AccountId} {lock : Nat} {next : Task ν α} {holder : Nat}
      (waits : session.phase = .waiting id lock next) (other : holder ≠ number)
      (has : world.HasLock holder id)

/-- A task that takes no step sleeps. -/
private theorem sleeps_of_access {task : Task ν α} {around : Surroundings}
    (stuck : world.access number session around task = none) :
    ∃ millis next, task = .sleep millis next ∧ world.clock < session.since + millis := by
  cases task with
  | sleep millis next =>
      simp only [access] at stuck
      split at stuck
      · rename_i time
        exact ⟨millis, next, rfl, time⟩
      · cases stuck
  | lockRow id next =>
      simp only [access] at stuck
      split at stuck <;> cases stuck
  | _ => cases stuck

/-- A session takes no step for these reasons and for no other. -/
theorem LocksInOrder.advance_eq_none_iff (order : world.LocksInOrder)
    (known : world.sessions[number]? = some session) (around : Surroundings) :
    world.advance number around = none ↔ world.Rests number session := by
  constructor
  · intro stuck
    cases phase : session.phase with
    | waiting id lock next =>
        obtain ⟨holder, different, has⟩ :=
          (order.advance_eq_none_of_waits known phase around).mp stuck
        exact .blocked phase different has
    | finished outcome => exact .over ⟨outcome, phase⟩
    | running task =>
        simp only [advance, known, phase, Option.bind_eq_bind, Option.bind_some] at stuck
        obtain ⟨millis, next, rfl, time⟩ := sleeps_of_access stuck
        exact .asleep phase time
    | opening start task =>
        simp only [advance, known, phase, Option.bind_eq_bind, Option.bind_some] at stuck
        split at stuck
        · rename_i time
          exact .early phase time
        · split at stuck <;> cases stuck
    | closing result =>
        cases result <;> simp only [advance, known, phase, Option.bind_eq_bind, Option.bind_some] at stuck
        · cases stuck
        · split at stuck <;> cases stuck
    | acquiring | committing | publishing | releasing =>
        simp only [advance, known, phase, Option.bind_eq_bind, Option.bind_some] at stuck
        repeat split at stuck
        all_goals cases stuck
  · rintro (⟨outcome, ended⟩ | ⟨opening, time⟩ | ⟨sleeps, time⟩ | ⟨waits, different, has⟩)
    · simp [advance, known, ended]
    · simp [advance, known, opening, time]
    · simp [advance, known, sleeps, access, time]
    · exact (order.advance_eq_none_of_waits known waits around).mpr ⟨_, different, has⟩

/-! ### Rows and their sessions -/

/-- How the sessions of a world share its rows. -/
structure SharesRows (world : World ν α) : Prop where
  /-- One session at a time has locked a row or has been given its lock. -/
  one : ∀ {number other : Nat} {id : AccountId}, world.HasLock number id → world.HasLock other id →
    number = other
  /-- All sessions that have locked a row, or are about to, or wait for it, refer to the one lock object that
  the registry has for the row. -/
  registered : ∀ {number : Nat} {session : Session ν α} {id : AccountId} {lock : Nat},
    world.sessions[number]? = some session → session.Refers id lock →
      world.registry.lookup id = some lock
  /-- As long as the outcome of a session is not decided, it has staged only rows that it has locked. -/
  staged : ∀ {number : Nat} {session : Session ν α} {id : AccountId} {account : Account},
    world.sessions[number]? = some session → session.phase.outcome = none →
      session.staged.account? id = some account → session.Holds id
  /-- A session that waits for a row goes on unless another session has got the lock of that row. -/
  waits : ∀ {number : Nat} {session : Session ν α} {id : AccountId} {lock : Nat} {next : Task ν α},
    world.sessions[number]? = some session → session.phase = .waiting id lock next →
      ∀ around, world.advance number around = none ↔
        ∃ holder, holder ≠ number ∧ world.HasLock holder id
  /-- Nothing else keeps a session that is not over from its next step, but that its time has not come. -/
  rests : ∀ {number : Nat} {session : Session ν α}, world.sessions[number]? = some session →
    ∀ around, world.advance number around = none ↔ world.Rests number session

theorem InOrder.sharesRows (order : world.InOrder) : world.SharesRows where
  one has has' := has.unique order.locks has'
  registered known refers := order.locks.registered known refers
  staged := by
    intro number session id account known undecided staged
    cases remaining : session.phase.remaining with
    | none =>
        obtain ⟨outcome, decided⟩ := Phase.remaining_eq_none_iff.mp remaining
        rw [undecided] at decided
        cases decided
    | some task => exact (((order.staged known).atWork task remaining).rows id account staged).1
  waits known waits around := order.locks.advance_eq_none_of_waits known waits around
  rests known around := order.locks.advance_eq_none_iff known around

/-- In every world that a new store can come to, whatever its sessions do and in whatever order, a row is
locked by one session at a time, all sessions that are after a row know one and the same lock object, sessions
stage only rows that they have locked, and a session waits only for one that has got the lock of the same row.
From the moment on at which a session has locked a row, it has the row locked and the row is what it was until
its outcome is decided; and until it gives up the row, no step that changes the row is another session's. -/
theorem rows_shared_in_turn {world : World ν α} (reachable : world.Reachable) :
    world.SharesRows ∧
    ∀ {events : List (Event ν α)} {later : World ν α}, world.run? events = some later →
      ∀ {number : Nat} {session session' : Session ν α} {id : AccountId},
        world.sessions[number]? = some session → session.Holds id →
        later.sessions[number]? = some session' →
          (session'.phase.outcome = none →
            session'.Holds id ∧ later.tables.account? id = world.tables.account? id) ∧
          (session'.Holds id →
            ∀ (earlier : List (Event ν α)) (event : Event ν α) (rest : List (Event ν α))
              (before after : World ν α), events = earlier ++ event :: rest →
                world.run? earlier = some before → before.after? event = some after →
                after.tables.account? id ≠ before.tables.account? id → event.turnOf = some number) := by
  have order := reachable.inOrder
  refine ⟨order.sharesRows, ?_⟩
  intro events later ran number session session' id known holds known'
  refine ⟨order.row_kept known holds ran known', ?_⟩
  rintro holds' earlier event rest before after rfl ran' happened changed
  have ranOn : before.run? (event :: rest) = some later := by
    rwa [run?_append, ran', Option.bind_some] at ran
  obtain ⟨found, here, still⟩ := holds_throughout known holds ran' ranOn known' holds'
  refine Decidable.byContradiction fun other => ?_
  exact changed ((order.run? ran').account?_of_not_turnOf here still happened other)

/-- An account is open.  One session has locked it, another waits for it, and a third opens another account
meanwhile, which is neither hindered nor seen by the first. -/
theorem rows_shared_in_turn_opening :
    let one := Account.opened ⟨Uuid.ofNat 1⟩ ⟨Uuid.ofNat 2⟩ .eur ⟨0, 0⟩
    let two := Account.opened ⟨Uuid.ofNat 3⟩ ⟨Uuid.ofNat 2⟩ .eur ⟨0, 0⟩
    let context := RequestContext.ofUser one.owner
    let around : Surroundings := ⟨⟨5, 0⟩, Uuid.ofNat 4, fun _ _ => .error .outOfRange⟩
    let open' (account : Account) : Event Empty Unit := .called context (Work.ask (.createAccount account))
    let close (account : Account) : Event Empty Unit := .called context (Work.ask (.deleteAccount account.id))
    let steps (number count : Nat) : List (Event Empty Unit) :=
      List.replicate count (.advanced number around)
    let before := open' one :: steps 0 11 ++ close one :: steps 1 5 ++ close one :: steps 2 3
    let meanwhile := open' two :: steps 3 11
    ∃ world later session session', (World.empty : World Empty Unit).run? before = some world ∧
      world.run? meanwhile = some later ∧ world.SharesRows ∧ world.advance 2 around = none ∧
      world.sessions[1]? = some session ∧ session.Holds one.id ∧
      later.sessions[1]? = some session' ∧ session'.Holds one.id ∧
      later.tables.account? one.id = world.tables.account? one.id ∧
      later.tables.account? two.id = some two := by
  intro one two context around open' close steps before meanwhile
  have ends : ((World.empty : World Empty Unit).run? before).map (fun world =>
      ((world.advance 2 around).isNone, world.sessions[1]?.map (·.holds one.id),
        (world.run? meanwhile).map fun later =>
          (later.sessions[1]?.map (·.phase.outcome.isNone), later.tables.account? two.id))) =
      some (true, some true, some (some true, some two)) := by
    decide +kernel
  obtain ⟨world, ran, ends⟩ := Option.map_eq_some_iff.mp ends
  obtain ⟨stuck, ends⟩ := Prod.mk.inj ends
  obtain ⟨locked, ends⟩ := Prod.mk.inj ends
  obtain ⟨session, known, locked⟩ := Option.map_eq_some_iff.mp locked
  obtain ⟨later, ran', ends⟩ := Option.map_eq_some_iff.mp ends
  obtain ⟨working, opened⟩ := Prod.mk.inj ends
  obtain ⟨session', known', working⟩ := Option.map_eq_some_iff.mp working
  have holds := Session.holds_iff.mp locked
  obtain ⟨shares, kept⟩ := rows_shared_in_turn ⟨before, ran⟩
  obtain ⟨still, same⟩ := (kept ran' known holds known').1 (Option.isNone_iff_eq_none.mp working)
  have blocked := Option.isNone_iff_eq_none.mp stuck
  exact ⟨world, later, session, session', ran, ran', shares, blocked, known, holds, known', still, same,
    opened⟩

end World

end Passbook.Session

import Passbook.Proofs.Session.Pace
import Passbook.Proofs.Session.Refinement
import Passbook.Session.Simulation
/-!
# A call that is run alone

When one call is run at a time, no fault is armed and no time passes, a run comes to what its work comes to:
it never waits, it is over within the steps that are allowed for it, and the store is at rest again.
-/

namespace Passbook.Session

open Store (Tables)

variable {ν α : Type}

/-! ### An undisturbed run -/

theorem Phase.told_of_done {phase : Phase ν α} {result : Except LedgerError α}
    (remaining : phase.remaining = some (.done result)) (armed : Bool) (around : Surroundings) :
    phase.told armed around = [] := by
  cases phase with
  | running task =>
      cases remaining
      rfl
  | _ => rfl

theorem Phase.told_of_panic {phase : Phase ν α} {text : String}
    (remaining : phase.remaining = some (.panic text)) (armed : Bool) (around : Surroundings) :
    phase.told armed around = [] := by
  cases phase with
  | running task =>
      cases remaining
      rfl
  | _ => rfl

namespace World

variable {world after : World ν α} {number : Nat} {session next : Session ν α} {around : Surroundings}

/-- What remains of the work of a session has come to an outcome. -/
def ComesTo (session : Session ν α) (outcome : Outcome α) : Prop :=
  (∃ result, session.phase.remaining = some (.done result) ∧ outcome = .ofResult result) ∨
    ∃ text, session.phase.remaining = some (.panic text) ∧ outcome = .panicked text

/-- As long as no fault is armed and its time is not over, a step of a session decides nothing but what its
work has come to. -/
theorem advance_comesTo (known : world.sessions[number]? = some session) (unarmed : world.faults = .none)
    (inTime : session.context.isExpired world.clock = false) (undecided : session.phase.outcome = none)
    (moved : world.advance number around = some after) (here : after.sessions[number]? = some next)
    {outcome : Outcome α} (decided : next.phase.outcome = some outcome) : ComesTo session outcome := by
  obtain ⟨bound, _⟩ := List.getElem?_eq_some_iff.mp known
  have comes : ∀ {moved' : World ν α} {session' : Session ν α},
      some (moved'.setSession number session') = some after → moved'.sessions = world.sessions →
        session'.phase.outcome = some outcome := by
    rintro moved' session' ⟨rfl⟩ same
    rw [setSession, same, List.getElem?_set_self bound] at here
    cases here
    exact decided
  have onItsWay : ∀ {moved' : World ν α} {session' : Session ν α},
      some (moved'.setSession number session') = some after → moved'.sessions = world.sessions →
        session'.phase.outcome = none → False := by
    intro moved' session' moved same undecided
    rw [comes moved same] at undecided
    cases undecided
  simp only [advance, known, Option.bind_eq_bind, Option.bind_some, unarmed, Store.Faults.none] at moved
  cases phase : session.phase with
  | running task =>
      rw [phase] at moved
      cases task with
      | panic text =>
          cases comes moved rfl
          exact .inr ⟨text, by rw [phase]; rfl, rfl⟩
      | lockRow id rest =>
          simp only [access] at moved
          split at moved
          · exact (onItsWay moved rfl rfl).elim
          · exact (onItsWay moved (sessions_findLock world id) rfl).elim
      | sleep millis rest =>
          simp only [access] at moved
          split at moved
          · cases moved
          · exact (onItsWay moved rfl rfl).elim
      | _ => exact (onItsWay moved rfl rfl).elim
  | opening start task =>
      simp only [phase] at moved
      split at moved
      · cases moved
      · exact (onItsWay moved rfl rfl).elim
  | acquiring id lock rest =>
      simp only [phase] at moved
      split at moved
      · exact (onItsWay moved rfl rfl).elim
      · exact (onItsWay moved rfl rfl).elim
  | waiting id lock rest =>
      simp only [phase] at moved
      split at moved
      · split at moved
        · exact (onItsWay moved rfl rfl).elim
        · cases moved
      · cases moved
  | closing result =>
      cases result with
      | error e =>
          simp only [phase] at moved
          cases comes moved rfl
          exact .inl ⟨.error e, by rw [phase]; rfl, rfl⟩
      | ok value =>
          simp only [phase, inTime] at moved
          exact (onItsWay moved rfl rfl).elim
  | committing value =>
      simp only [phase] at moved
      exact (onItsWay moved rfl rfl).elim
  | publishing value =>
      simp only [phase] at moved
      cases comes moved rfl
      exact .inl ⟨.ok value, by rw [phase]; rfl, rfl⟩
  | releasing outcome' | finished outcome' =>
      rw [phase] at undecided
      cases undecided

/-- A step arms no fault. -/
theorem Still.unarmed (still : world.Still after) (unarmed : world.faults = .none) :
    after.faults = .none := by
  have off : ∀ {armed before : Bool}, (armed = true → before = true) → before = false → armed = false := by
    intro armed before implies off
    cases armed with
    | false => rfl
    | true => exact absurd (implies rfl) (by rw [off]; nofun)
  have beginFault := off still.beginFault (by rw [unarmed]; rfl)
  have insertFault := off still.insertFault (by rw [unarmed]; rfl)
  have commitFault := off still.commitFault (by rw [unarmed]; rfl)
  cases faults : after.faults with
  | mk begin' insert' commit' =>
      rw [faults] at beginFault insertFault commitFault
      cases beginFault
      cases insertFault
      cases commitFault
      rfl

section Lone

variable {base : Tables} {first : Task ν α} {context : RequestContext} {start finish : World ν α}
  {events : List (Event ν α)}

/-- A run that is alone, and is disturbed neither by faults nor by the end of its time, ends as its work does
when it is carried out. -/
theorem Lone.carriedOut (lone : start.Lone base first context number []) (order : start.InOrder)
    (unarmed : start.faults = .none) (inTime : context.isExpired start.clock = false)
    (undecided : ∀ session, start.sessions[number]? = some session → session.phase.outcome = none)
    (steps : ∀ event ∈ events, ∃ around, event = .advanced number around)
    (ran : start.run? events = some finish) :
    (finish.faults = .none ∧ finish.clock = start.clock) ∧
      ∀ session outcome, finish.sessions[number]? = some session →
        session.phase.outcome = some outcome →
          ∃ written, first.execute base .empty (start.heard number events) = some (outcome, written) := by
  induction leads_of_run? ran with
  | start =>
      refine ⟨⟨unarmed, rfl⟩, ?_⟩
      intro session outcome known decided
      rw [undecided session known] at decided
      cases decided
  | @snoc events world after event before happened inductionHypothesis =>
      have ran' := run?_eq before
      have steps' : ∀ event ∈ events, ∃ around, event = .advanced number around :=
        fun event member => steps event (List.mem_append_left _ member)
      obtain ⟨⟨unarmed', clock⟩, carried⟩ := inductionHypothesis steps' ran'
      obtain ⟨around, rfl⟩ := steps event (by simp)
      have still := advance_still happened
      refine ⟨⟨still.unarmed unarmed', still.clock.trans clock⟩, ?_⟩
      intro next outcome here decided
      have single : ∀ event ∈ events, event.isCall = false := by
        intro event member
        obtain ⟨around, rfl⟩ := steps' event member
        rfl
      obtain ⟨session, known, same, progress⟩ := (lone.run? order single ran').own
      rw [heard_snoc ran', toldTo, if_pos rfl, learned_eq known]
      cases undecided' : session.phase.outcome with
      | some outcome' =>
          obtain ⟨session', next', known', sessions, turn⟩ := advance_turned happened
          rw [known] at known'
          cases known'
          obtain ⟨bound, _⟩ := List.getElem?_eq_some_iff.mp known
          rw [sessions, List.getElem?_set_self bound] at here
          cases here
          obtain ⟨quiet, _, decided', _⟩ := turn.of_decided undecided'
          rw [learned_eq known] at quiet
          rw [decided] at decided'
          cases decided'
          rw [quiet, List.append_nil]
          exact carried session outcome known undecided'
      | none =>
          have comes := advance_comesTo known unarmed' (by rw [same, clock]; exact inTime) undecided'
            happened here decided
          have led : ∀ {task : Task ν α}, session.phase.remaining = some task →
              first.LeadsTo base .everything (start.heard number events) task session.staged := by
            intro task remaining
            cases progress with
            | atWork remaining' led =>
                rw [remaining] at remaining'
                cases remaining'
                exact led
            | committed decided | void decided =>
                rw [undecided'] at decided
                cases decided
          rcases comes with ⟨result, remaining, rfl⟩ | ⟨text, remaining, rfl⟩
          · rw [Phase.told_of_done remaining, List.append_nil]
            exact ⟨session.staged, (led remaining).execute_done⟩
          · rw [Phase.told_of_panic remaining, List.append_nil]
            exact ⟨session.staged, (led remaining).execute_panic⟩

end Lone

end World

namespace World

/-- The fresh identifiers that a session was told are those that its steps were given. -/
theorem exists_of_drawn {start : World ν α} {number : Nat} {events : List (Event ν α)} {id : Uuid}
    (drawn : .newId id ∈ start.heard number events) :
    ∃ around, .advanced number around ∈ events ∧ around.newId = id := by
  induction events generalizing start with
  | nil => cases drawn
  | cons event rest inductionHypothesis =>
      rcases List.mem_append.mp drawn with now | later
      · cases event with
        | advanced other around =>
            rw [toldTo] at now
            split at now
            · rename_i mine
              subst mine
              refine ⟨around, List.mem_cons_self, ?_⟩
              rw [learned] at now
              split at now
              · rename_i session _
                cases phase : session.phase with
                | running task =>
                    rw [phase, Phase.told] at now
                    cases task <;> simp_all [Task.told]
                | _ =>
                    rw [phase] at now
                    cases now
              · cases now
            · cases now
        | _ => cases now
      · split at later
        · obtain ⟨around, member, same⟩ := inductionHypothesis later
          exact ⟨around, List.mem_cons_of_mem _ member, same⟩
        · cases later

/-- When all locks are free the sessions can go. -/
theorem InOrder.cleared {world : World ν α} (order : world.InOrder)
    (free : ∀ lock ∈ world.locks, lock = ⟨none, []⟩) :
    ({ world with sessions := [] } : World ν α).InOrder := by
  have nobody : ∀ {lock : Nat} {l : RowLock}, world.locks[lock]? = some l → ∀ number : Nat,
      (number ∈ l.line ↔ ({ world with sessions := [] } : World ν α).InLine number lock) := by
    intro lock l here number
    rw [free l (List.mem_of_getElem? here)]
    simp [RowLock.line, InLine]
  refine ⟨⟨⟨order.locks.apart, order.locks.made, ?_, ?_, ?_⟩, order.locks.orderly, nobody, ?_⟩, ?_, ?_⟩ <;>
    simp

end World

/-! ### One call at a time -/

namespace Simulation

variable {simulation : Simulation ν α} {session : Session ν α} {steps : Nat}

/-- There is one session, to which no more than so many steps are left, and it has not to wait for time. -/
structure Sole (simulation : Simulation ν α) (session : Session ν α) (steps : Nat) : Prop where
  sessions : simulation.world.sessions = [session]
  brief : session.Brief steps
  due : (simulation.wakeTime? session).any (simulation.world.clock < ·) = false

/-- When the only session is over nothing happens any more. -/
theorem happen_of_isOver (sessions : simulation.world.sessions = [session]) (isOver : session.IsOver) :
    simulation.happen 0 = none := by
  obtain ⟨outcome, ended⟩ := isOver
  have stays : simulation.move 0 = none := by
    simp [move, advance, wakeTime?, World.advance, World.expire, World.breakOff, sessions, ended]
  simp [happen, sessions, stays, nextMoment?, wakeTime?, expiryTime?, ended]

section Step

variable {base : Tables} {first : Task ν α} {context : RequestContext} {readings : List Reading}

/-- What a step of the only session is told. -/
def surroundings (simulation : Simulation ν α) : Surroundings :=
  ⟨simulation.now, (simulation.ids.next simulation.millis).1, simulation.converter.answer⟩

/-- The only session can take a step as long as it is not over. -/
theorem Sole.advances (sole : simulation.Sole session steps)
    (lone : simulation.world.Lone base first context 0 readings) (order : simulation.world.InOrder)
    (going : ¬session.IsOver) :
    ∃ world, simulation.world.advance 0 simulation.surroundings = some world := by
  have known : simulation.world.sessions[0]? = some session := by rw [sole.sessions]; rfl
  cases phase : session.phase with
  | opening start task =>
      have begins : ¬simulation.world.clock < start := by
        have due := sole.due
        rw [wakeTime?, phase] at due
        simpa using due
      simp only [World.advance, known, Option.bind_eq_bind, Option.bind_some, phase, if_neg begins]
      split
      · exact ⟨_, rfl⟩
      · exact ⟨_, rfl⟩
  | _ =>
      rcases lone.advances order known (by rw [phase]; rfl) going simulation.surroundings with
        ⟨millis, rest, asleep, _⟩ | moves
      · have brief := sole.brief
        rw [Session.Brief, asleep] at brief
        obtain ⟨_, _, brief⟩ := brief
        exact brief.elim
      · exact moves

/-- After its step the only session has not to wait for time. -/
theorem Sole.onward (sole : simulation.Sole session (steps + 1)) (prompt : simulation.converter.delay = 0)
    {world : World ν α} (moved : simulation.world.advance 0 simulation.surroundings = some world)
    (ids : Uuid.Source) :
    ∃ next, ({ simulation with world := world, ids := ids } : Simulation ν α).Sole next steps := by
  have known : simulation.world.sessions[0]? = some session := by rw [sole.sessions]; rfl
  have clock := (World.advance_still moved).clock
  obtain ⟨next, here, brief⟩ := World.advance_brief known sole.brief moved
  obtain ⟨before, after, known', sessions, turn⟩ := World.advance_turned moved
  rw [known] at known'
  cases known'
  have only : world.sessions = [after] := by
    rw [sessions, sole.sessions]
    rfl
  rw [only] at here
  cases here
  refine ⟨next, only, brief, ?_⟩
  have begun := turn.isOpening_eq_false
  cases phase : next.phase with
  | opening start task =>
      rw [phase] at begun
      cases begun
  | running task =>
      cases task with
      | sleep millis rest =>
          rw [Session.Brief, phase] at brief
          obtain ⟨_, _, brief⟩ := brief
          exact brief.elim
      | convert amount target rest =>
          have just := turn.since_eq (by rw [phase]; rfl)
          simp [wakeTime?, phase, just, clock, prompt]
      | _ => simp [wakeTime?, phase]
  | _ => simp [wakeTime?, phase]

/-- The only session takes a step. -/
theorem Sole.happen (sole : simulation.Sole session (steps + 1)) (prompt : simulation.converter.delay = 0)
    (lone : simulation.world.Lone base first context 0 readings) (order : simulation.world.InOrder)
    (going : ¬session.IsOver) :
    ∃ world next,
      simulation.happen 0 =
        some (0, { simulation with world := world, ids := (simulation.ids.next simulation.millis).2 }) ∧
      simulation.world.advance 0 simulation.surroundings = some world ∧
      ({ simulation with world := world, ids := (simulation.ids.next simulation.millis).2 } :
        Simulation ν α).Sole next steps := by
  obtain ⟨world, moved⟩ := sole.advances lone order going
  obtain ⟨next, onward⟩ := sole.onward prompt moved (simulation.ids.next simulation.millis).2
  refine ⟨world, next, ?_, moved, onward⟩
  have known : simulation.world.sessions[0]? = some session := by rw [sole.sessions]; rfl
  have advances : simulation.advance 0 =
      some { simulation with world := world, ids := (simulation.ids.next simulation.millis).2 } := by
    simp only [advance, known, Option.bind_eq_bind, Option.bind_some, sole.due, Bool.false_eq_true,
      if_false]
    exact Option.bind_eq_some_iff.mpr ⟨world, moved, rfl⟩
  simp [Simulation.happen, move, advances]

/-- The only session goes on until it is over: its steps, for each of which there is an identifier, and what
comes of them.  The clock stands still. -/
structure GoesOn (simulation : Simulation ν α) (bound : Nat) (events : List (Event ν α))
    (last : Simulation ν α) : Prop where
  reached : happenings bound 0 simulation = last
  ran : simulation.world.run? events = some last.world
  steps : ∀ event ∈ events, ∃ around, event = .advanced 0 around ∧
    around.newId ∈ (simulation.ids.take simulation.millis events.length).1
  few : events.length ≤ bound
  ids : last.ids = (simulation.ids.take simulation.millis events.length).2
  isOver : ∃ session, last.world.sessions = [session] ∧ session.IsOver
  converter : last.converter = simulation.converter
  time : last.millis = simulation.millis

/-- A session that is over does not go on. -/
theorem GoesOn.of_isOver (bound : Nat) (sessions : simulation.world.sessions = [session])
    (isOver : session.IsOver) : simulation.GoesOn bound [] simulation where
  reached := by
    cases bound with
    | zero => rfl
    | succ bound => rw [happenings, happen_of_isOver sessions isOver]
  ran := rfl
  steps := nofun
  few := Nat.zero_le bound
  ids := rfl
  isOver := ⟨session, sessions, isOver⟩
  converter := rfl
  time := rfl

/-- A session that takes a step goes on from there. -/
theorem GoesOn.step {world : World ν α} {last : Simulation ν α} {bound : Nat} {events : List (Event ν α)}
    (happens : simulation.happen 0 =
      some (0, { simulation with world := world, ids := (simulation.ids.next simulation.millis).2 }))
    (moved : simulation.world.advance 0 simulation.surroundings = some world)
    (goesOn : ({ simulation with world := world, ids := (simulation.ids.next simulation.millis).2 } :
      Simulation ν α).GoesOn bound events last) :
    simulation.GoesOn (bound + 1) (.advanced 0 simulation.surroundings :: events) last := by
  have time : ({ simulation with world := world, ids := (simulation.ids.next simulation.millis).2 } :
      Simulation ν α).millis = simulation.millis := by
    simp [millis, (World.advance_still moved).clock]
  obtain ⟨reached, ran, steps, few, ids, isOver, converter, time'⟩ := goesOn
  rw [time] at steps ids time'
  refine ⟨?_, Option.bind_eq_some_iff.mpr ⟨world, moved, ran⟩, ?_, Nat.succ_le_succ few, ids, isOver,
    converter, time'⟩
  · rw [happenings, happens]
    exact reached
  · intro event member
    rcases List.mem_cons.mp member with rfl | later
    · exact ⟨simulation.surroundings, rfl, List.mem_cons_self⟩
    · obtain ⟨around, same, found⟩ := steps event later
      exact ⟨around, same, List.mem_cons_of_mem _ found⟩

/-- The only session is over within the steps that are left to it. -/
theorem Sole.exists_goesOn (bound : Nat) :
    ∀ {simulation : Simulation ν α} {session : Session ν α} {readings : List Reading},
      simulation.Sole session bound → simulation.converter.delay = 0 →
      simulation.world.Lone base first context 0 readings → simulation.world.InOrder →
        ∃ events last, simulation.GoesOn bound events last := by
  induction bound with
  | zero =>
      intro simulation session readings sole _ _ _
      exact ⟨[], simulation, .of_isOver 0 sole.sessions sole.brief.isOver⟩
  | succ bound inductionHypothesis =>
      intro simulation session readings sole prompt lone order
      by_cases isOver : session.IsOver
      · exact ⟨[], simulation, .of_isOver (bound + 1) sole.sessions isOver⟩
      · obtain ⟨world, next, happens, moved, sole'⟩ := sole.happen prompt lone order isOver
        have happened : simulation.world.after? (.advanced 0 simulation.surroundings) = some world := moved
        obtain ⟨events, last, goesOn⟩ :=
          inductionHypothesis sole' prompt (lone.after? order rfl happened) (order.after? happened)
        exact ⟨_, last, goesOn.step happens moved⟩

end Step

/-- Nothing is under way on the store, and amounts are converted at once. -/
structure Vacant (simulation : Simulation ν α) : Prop where
  idle : simulation.world.sessions = []
  order : simulation.world.InOrder
  prompt : simulation.converter.delay = 0

/-- A store stays vacant when faults are armed. -/
theorem Vacant.arm (vacant : simulation.Vacant) (faults : Store.Faults) :
    (simulation.arm faults).Vacant where
  idle := vacant.idle
  order := vacant.order.after? (show simulation.world.after? (.armed faults) = some _ from rfl)
  prompt := vacant.prompt

/-- Nothing is under way on the store, no fault is armed, and amounts are converted at once. -/
structure AtRest (simulation : Simulation ν α) : Prop where
  idle : simulation.world.sessions = []
  order : simulation.world.InOrder
  unarmed : simulation.world.faults = .none
  prompt : simulation.converter.delay = 0

/-- A new store is at rest. -/
theorem AtRest.start (epoch : Nat) {converter : Converter} (prompt : converter.delay = 0) :
    (Simulation.start epoch converter : Simulation ν α).AtRest :=
  ⟨rfl, .of_none rfl rfl rfl, rfl, prompt⟩

/-- A store carries out a task by itself, given what it is told: the time, identifiers of its source, and
conversions, but of no fault.  What the task has written is published if it completes, and the store is at rest
again. -/
structure CarriesOut (simulation : Simulation ν α) (task : Task ν α) (bound : Nat) (readings : List Reading)
    (outcome : Outcome α) (after : Simulation ν α) : Prop where
  carried : ∃ written, task.execute simulation.world.tables .empty readings = some (outcome, written) ∧
    (∀ value, outcome = .completed value → after.world.tables = simulation.world.tables.extend written) ∧
      ((∀ value, outcome ≠ .completed value) → after.world.tables = simulation.world.tables)
  unfailing : .insertFault true ∉ readings
  drawn : ∃ count ≤ bound,
    (∀ id, .newId id ∈ readings → id ∈ (simulation.ids.take simulation.millis count).1) ∧
      after.ids = (simulation.ids.take simulation.millis count).2
  time : after.millis = simulation.millis
  atRest : after.AtRest

theorem AtRest.vacant (rest : simulation.AtRest) : simulation.Vacant := ⟨rest.idle, rest.order, rest.prompt⟩

/-- The session of a call on a vacant store is the only one. -/
theorem Vacant.sole (vacant : simulation.Vacant) (context : RequestContext) {work : Work ν α} {bound : Nat}
    (brief : work.task.Brief bound) :
    ({ simulation with world := simulation.world.call context simulation.world.clock work } :
      Simulation ν α).Sole
        ⟨context, .opening simulation.world.clock work.task, simulation.world.clock, [], .empty, []⟩
        (bound + overhead) where
  sessions := by simp [World.call, vacant.idle]
  brief := by
    refine ⟨bound, ?_, brief⟩
    show bound + 0 + 7 ≤ bound + 16
    omega
  due := by simp [wakeTime?, World.call]

theorem Vacant.lone (vacant : simulation.Vacant) (context : RequestContext) (work : Work ν α) :
    (simulation.world.call context simulation.world.clock work).Lone simulation.world.tables work.task context 0
      [] := by
  have isOver : ∀ session ∈ simulation.world.sessions, session.IsOver := by
    rw [vacant.idle]
    intro session member
    cases member
  have lone := World.Lone.of_over isOver context simulation.world.clock work
  rwa [show simulation.world.sessions.length = 0 by rw [vacant.idle]; rfl] at lone

/-- When the only session is over the store is vacant again. -/
theorem Vacant.after (vacant : simulation.Vacant) {context : RequestContext} {work : Work ν α} {bound : Nat}
    {events : List (Event ν α)} {last : Simulation ν α}
    (goesOn : ({ simulation with world := simulation.world.call context simulation.world.clock work } :
      Simulation ν α).GoesOn bound events last) :
    ({ last with world := { last.world with sessions := [] } } : Simulation ν α).Vacant := by
  obtain ⟨session, sessions, isOver⟩ := goesOn.isOver
  have known : last.world.sessions[0]? = some session := by rw [sessions]; rfl
  have single : ∀ event ∈ events, event.isCall = false := by
    intro event member
    obtain ⟨around, rfl, _⟩ := goesOn.steps event member
    rfl
  have order : (simulation.world.call context simulation.world.clock work).InOrder :=
    vacant.order.call context _ work
  have order' := order.run? goesOn.ran
  refine ⟨rfl, ?_, goesOn.converter ▸ vacant.prompt⟩
  exact order'.cleared (((vacant.lone context work).run? order single goesOn.ran).locks_free order' known isOver)

/-- A call is run alone: its session goes on until it is over. -/
structure RunsAlone (simulation : Simulation ν α) (call : Call ν α) (context : RequestContext)
    (events : List (Event ν α)) (last : Simulation ν α) (session : Session ν α) : Prop where
  user : context.user = call.user
  /-- A call that is made with some time has a session whose time is not over. -/
  inTime : (∀ timeout, call.timeout = some timeout → 0 < timeout) →
    context.isExpired simulation.world.clock = false
  goesOn : ({ simulation with world := simulation.world.call context simulation.world.clock call.work } :
    Simulation ν α).GoesOn (call.bound + overhead) events last
  sessions : last.world.sessions = [session]
  ran : simulation.run [call] =
    ([reportOf session], { last with world := { last.world with sessions := [] } })

/-- A call that is made at once has a session that begins now. -/
private theorem exists_context (world : World ν α) {call : Call ν α} (atOnce : call.delay = 0) :
    ∃ context : RequestContext, addCall world call = world.call context world.clock call.work ∧
      context.user = call.user ∧ ((∀ timeout, call.timeout = some timeout → 0 < timeout) →
        context.isExpired world.clock = false) := by
  obtain ⟨delay, user, timeout, work, bound⟩ := call
  cases atOnce
  cases timeout with
  | none => exact ⟨_, rfl, rfl, fun _ => rfl⟩
  | some timeout =>
      refine ⟨_, rfl, rfl, fun inTime => decide_eq_false ?_⟩
      have positive := inTime timeout rfl
      show ¬world.clock + 0 + timeout ≤ world.clock
      omega

/-- Every call that is made at once on a vacant store is run alone to its end. -/
theorem Vacant.exists_runsAlone (vacant : simulation.Vacant) {call : Call ν α} (atOnce : call.delay = 0)
    (brief : call.work.task.Brief call.bound) :
    ∃ context events last session, simulation.RunsAlone call context events last session := by
  obtain ⟨context, called, user, inTime⟩ := exists_context simulation.world atOnce
  obtain ⟨events, last, goesOn⟩ := (vacant.sole context brief).exists_goesOn _ vacant.prompt
    (vacant.lone context call.work) (vacant.order.call context _ call.work)
  obtain ⟨session, sessions, _⟩ := goesOn.isOver
  refine ⟨context, events, last, session, user, inTime, goesOn, sessions, ?_⟩
  have total : 0 + call.bound + overhead = call.bound + overhead := by rw [Nat.zero_add]
  simp only [Simulation.run, List.foldl_cons, List.foldl_nil, called, total, goesOn.reached, sessions,
    List.map_cons, List.map_nil]

/-- What the steps of the only session come to when it is over. -/
theorem AtRest.carriesOut (rest : simulation.AtRest) {context : RequestContext} {work : Work ν α}
    (inTime : context.isExpired simulation.world.clock = false) {bound : Nat} {events : List (Event ν α)}
    {last : Simulation ν α}
    (goesOn : ({ simulation with world := simulation.world.call context simulation.world.clock work } :
      Simulation ν α).GoesOn bound events last) :
    ∃ session outcome, last.world.sessions = [session] ∧ session.phase = .finished outcome ∧
      simulation.CarriesOut work.task bound
        ((simulation.world.call context simulation.world.clock work).heard 0 events) outcome
        { last with world := { last.world with sessions := [] } } := by
  obtain ⟨session, sessions, outcome, ended⟩ := goesOn.isOver
  have known : last.world.sessions[0]? = some session := by rw [sessions]; rfl
  have decided : session.phase.outcome = some outcome := by rw [ended]; rfl
  have lone := rest.vacant.lone context work
  have order : (simulation.world.call context simulation.world.clock work).InOrder :=
    rest.order.call context _ work
  have undecided : ∀ session, (simulation.world.call context simulation.world.clock work).sessions[0]? =
      some session → session.phase.outcome = none := by
    intro found here
    rw [World.call, rest.idle] at here
    cases here
    rfl
  have single : ∀ event ∈ events, event.isCall = false := by
    intro event member
    obtain ⟨around, rfl, _⟩ := goesOn.steps event member
    rfl
  have quiet : ∀ faults, .armed faults ∈ events → faults.insert = false := by
    intro faults member
    obtain ⟨around, same, _⟩ := goesOn.steps _ member
    cases same
  have unarmed : (simulation.world.call context simulation.world.clock work).faults.insert = false := by
    show simulation.world.faults.insert = false
    rw [rest.unarmed]
    rfl
  obtain ⟨⟨unarmed', _⟩, carried⟩ := lone.carriedOut order rest.unarmed inTime undecided
    (fun event member => (goesOn.steps event member).imp fun _ => And.left) goesOn.ran
  obtain ⟨written, carried⟩ := carried session outcome known decided
  obtain ⟨own, known', _, progress⟩ := (lone.run? order single goesOn.ran).own
  rw [known] at known'
  cases known'
  have vacant := rest.vacant.after goesOn
  refine ⟨session, outcome, sessions, ended, ⟨written, carried, ?_, ?_⟩, ?_,
    ⟨events.length, goesOn.few, ?_, goesOn.ids⟩, goesOn.time,
    ⟨vacant.idle, vacant.order, unarmed', vacant.prompt⟩⟩
  · rintro value rfl
    obtain ⟨written', _, carried', published⟩ := progress.of_completed decided
    rw [carried] at carried'
    cases carried'
    exact published
  · exact fun incomplete => (progress.of_incomplete decided incomplete).1
  · exact fun told => (World.unfailing_heard unarmed quiet goesOn.ran 0).1 _ told rfl
  · intro id drawn
    obtain ⟨around, member, rfl⟩ := World.exists_of_drawn drawn
    obtain ⟨around', same, given⟩ := goesOn.steps _ member
    cases same
    exact given

/-- A call that is run alone, at once and with some time, on a store at rest, is carried out. -/
theorem AtRest.run (rest : simulation.AtRest) {call : Call ν α} (atOnce : call.delay = 0)
    (inTime : ∀ timeout, call.timeout = some timeout → 0 < timeout)
    (brief : call.work.task.Brief call.bound) :
    ∃ report outcome readings after, simulation.run [call] = ([report], after) ∧
      report.outcome = some outcome ∧
        simulation.CarriesOut call.work.task (call.bound + overhead) readings outcome after := by
  obtain ⟨context, events, last, session, runs⟩ := rest.vacant.exists_runsAlone atOnce brief
  obtain ⟨session', outcome, sessions, ended, carriesOut⟩ :=
    rest.carriesOut (runs.inTime inTime) runs.goesOn
  rw [runs.sessions] at sessions
  cases sessions
  exact ⟨reportOf session, outcome, _, _, runs.ran, by simp [reportOf, ended], carriesOut⟩

end Simulation

end Passbook.Session

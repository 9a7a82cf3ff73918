import Passbook.Proofs.Histories
import Passbook.Proofs.Session.Locks
/-!
# Events

An event is a call, a turn of a session, or something that concerns no session.  What an event does is said
here, and what a session is told in the course of many.
-/

namespace Passbook.Session

variable {ν α : Type}

/-- A new run is called by the event. -/
def Event.isCall : Event ν α → Bool
  | .called _ _ => true
  | _ => false

namespace World

variable {world after : World ν α} {number : Nat}

/-! ### Events -/

def toldTo (world : World ν α) (number : Nat) : Event ν α → List Reading
  | .advanced other around => if other = number then world.learned other around else []
  | _ => []

/-- What an event does: a call adds a session, a turn changes one, and all else changes neither sessions
nor tables nor locks. -/
inductive Happens (world : World ν α) (event : Event ν α) (after : World ν α) : Prop where
  | called (context : RequestContext) (work : Work ν α) (calls : event = .called context work)
      (eq : after = world.call context world.clock work)
  | turned {session next : Session ν α} (number : Nat) (found : world.sessions[number]? = some session)
      (sessions : after.sessions = world.sessions.set number next)
      (turn : Turn world.tables world.clock session (world.toldTo number event) next after.tables)
      (move : LockMove world number session next after)
      (others : ∀ other, other ≠ number → world.toldTo other event = [])
  | aside (sessions : after.sessions = world.sessions) (tables : after.tables = world.tables)
      (registry : after.registry = world.registry) (locks : after.locks = world.locks)
      (quiet : ∀ other, world.toldTo other event = [])

/-- What a turn does and what it does to the locks, put together. -/
private theorem happens_of_turned {event : Event ν α}
    (turned : world.Turned number (world.toldTo number event) after)
    (moves : world.Moves number after)
    (others : ∀ other, other ≠ number → world.toldTo other event = []) :
    world.Happens event after := by
  obtain ⟨session, next, found, sessions, turn⟩ := turned
  obtain ⟨session', next', found', sessions', move⟩ := moves
  obtain ⟨bound, _⟩ := List.getElem?_eq_some_iff.mp found
  have sameSession : session' = session := by
    rw [found] at found'
    exact (Option.some.inj found').symm
  have sameNext : next' = next := by
    have here : after.sessions[number]? = some next := by
      rw [sessions, List.getElem?_set_self bound]
    rw [sessions', List.getElem?_set_self bound] at here
    exact Option.some.inj here
  subst sameSession sameNext
  exact .turned number found sessions turn move others

/-- Every event does one of these things. -/
theorem after?_happens {event : Event ν α} (happened : world.after? event = some after) :
    world.Happens event after := by
  cases event with
  | called context work =>
      cases happened
      exact .called context work rfl rfl
  | advanced number around =>
      refine happens_of_turned ?_ (advance_moves happened) ?_
      · rw [toldTo, if_pos rfl]
        exact advance_turned happened
      · intro other different
        rw [toldTo, if_neg (Ne.symm different)]
  | expired number =>
      exact happens_of_turned (expire_turned happened) (expire_moves happened) fun _ _ => rfl
  | cancelled number =>
      exact happens_of_turned (cancel_turned happened) (breakOff_moves happened) fun _ _ => rfl
  | ticked millis =>
      cases happened
      exact .aside rfl rfl rfl rfl fun _ => rfl
  | armed faults =>
      cases happened
      exact .aside rfl rfl rfl rfl fun _ => rfl

/-! ### Histories -/

theorem run?_append (world : World ν α) (events later : List (Event ν α)) :
    world.run? (events ++ later) = (world.run? events).bind (·.run? later) :=
  Leads.foldlM_append events later

theorem leads_of_run? {start : World ν α} {events : List (Event ν α)}
    (ran : start.run? events = some after) : Leads World.after? start events after :=
  .of_foldlM ran

theorem run?_eq {start : World ν α} {events : List (Event ν α)}
    (led : Leads World.after? start events after) : start.run? events = some after :=
  led.foldlM_eq

/-- What holds at first and is kept by every event holds after every history. -/
theorem run?_induction {motive : World ν α → Prop} (first : motive world)
    (step : ∀ {before next : World ν α} {event : Event ν α}, motive before →
      before.after? event = some next → motive next)
    {events : List (Event ν α)} (ran : world.run? events = some after) : motive after :=
  (leads_of_run? ran).invariant first step

/-- What holds of a session and is kept by its own turns is kept by every event. -/
theorem after?_keeps {motive : Session ν α → Prop}
    (turns : ∀ {tables tables' : Store.Tables} {clock : Nat} {session next : Session ν α}
      {learned : List Reading}, motive session → Turn tables clock session learned next tables' →
        motive next)
    {event : Event ν α} (kept : ∃ session, world.sessions[number]? = some session ∧ motive session)
    (happened : world.after? event = some after) :
    ∃ session, after.sessions[number]? = some session ∧ motive session := by
  obtain ⟨session, known, holds⟩ := kept
  obtain ⟨bound, _⟩ := List.getElem?_eq_some_iff.mp known
  cases after?_happens happened with
  | called context work _ eq =>
      subst eq
      exact ⟨session, session_kept rfl known, holds⟩
  | @turned mover next other moverKnown sessions turn =>
      by_cases mine : other = number
      · subst mine
        rw [known] at moverKnown
        cases moverKnown
        exact ⟨next, by rw [sessions, List.getElem?_set_self bound], turns holds turn⟩
      · exact ⟨session, by rw [sessions, List.getElem?_set_ne mine, known], holds⟩
  | aside sessions => exact ⟨session, by rw [sessions, known], holds⟩

/-- So it is by every history. -/
theorem run?_keeps {motive : Session ν α → Prop}
    (turns : ∀ {tables tables' : Store.Tables} {clock : Nat} {session next : Session ν α}
      {learned : List Reading}, motive session → Turn tables clock session learned next tables' →
        motive next)
    {events : List (Event ν α)} (kept : ∃ session, world.sessions[number]? = some session ∧ motive session)
    (ran : world.run? events = some after) :
    ∃ session, after.sessions[number]? = some session ∧ motive session :=
  run?_induction kept (fun kept happened => after?_keeps turns kept happened) ran

/-- A session that is over stays as it is. -/
theorem after?_of_isOver {session : Session ν α} {event : Event ν α}
    (known : world.sessions[number]? = some session) (ended : session.IsOver)
    (happened : world.after? event = some after) : after.sessions[number]? = some session := by
  obtain ⟨session', known', rfl⟩ := after?_keeps (motive := (· = session)) (by
    rintro _ _ _ _ _ _ rfl turn
    exact absurd ended turn.not_isOver) ⟨session, known, rfl⟩ happened
  exact known'

theorem run?_of_isOver {session : Session ν α} (known : world.sessions[number]? = some session)
    (ended : session.IsOver) {events : List (Event ν α)} (ran : world.run? events = some after) :
    after.sessions[number]? = some session :=
  run?_induction known (fun known happened => after?_of_isOver known ended happened) ran

/-- What a session is told in a history. -/
def heard (world : World ν α) (number : Nat) : List (Event ν α) → List Reading
  | [] => []
  | event :: rest =>
      world.toldTo number event ++
        match world.after? event with
        | some next => next.heard number rest
        | none => []

theorem heard_snoc {start : World ν α} {events : List (Event ν α)} (ran : start.run? events = some world)
    (event : Event ν α) :
    start.heard number (events ++ [event]) =
      start.heard number events ++ world.toldTo number event := by
  induction events generalizing start with
  | nil =>
      cases ran
      cases happens : world.after? event <;> simp [heard, happens]
  | cons first rest inductionHypothesis =>
      obtain ⟨next, happened, ran⟩ := Option.bind_eq_some_iff.mp ran
      simp [heard, happened, inductionHypothesis ran]

end World

/-! ### Work that has failed -/

/-- The work of a session has ended with an error, or the session has failed with it. -/
def Session.Fails (session : Session ν α) (e : LedgerError) : Prop :=
  session.phase = .running (.done (.error e)) ∨ session.phase = .closing (.error e) ∨
    session.phase.outcome = some (.failed e)

/-- A session that has begun and come to an error fails with it. -/
theorem Session.fails_of_remaining {session : Session ν α} {e : LedgerError}
    (begun : session.phase.isOpening = false)
    (remaining : session.phase.remaining = some (.done (.error e))) : session.Fails e := by
  cases phase : session.phase with
  | opening => simp [phase, Phase.isOpening] at begun
  | running task =>
      rw [phase] at remaining
      exact .inl (phase.trans (congrArg Phase.running (Option.some.inj remaining)))
  | closing result =>
      simp only [phase, Phase.remaining, Option.some.injEq, Task.done.injEq] at remaining
      exact .inr (.inl (phase.trans (congrArg Phase.closing remaining)))
  | acquiring | waiting | committing | publishing | releasing | finished =>
      simp [phase, Phase.remaining] at remaining

/-- A session whose work has ended with an error is not given up any more, and does not run out of time: it
fails with the error. -/
theorem World.after?_fails {world after : World ν α} {number : Nat} {event : Event ν α} {e : LedgerError}
    (fails : ∃ session, world.sessions[number]? = some session ∧ session.Fails e)
    (happened : world.after? event = some after) :
    ∃ session, after.sessions[number]? = some session ∧ session.Fails e := by
  obtain ⟨session, known, fails⟩ := fails
  obtain ⟨bound, _⟩ := List.getElem?_eq_some_iff.mp known
  -- A session whose outcome is decided keeps it, and one that has no turn stays as it is.
  have turned : ∀ {other : Nat} {learned : List Reading}, world.Turned other learned after →
      (other = number → ∃ outcome, session.phase.outcome = some outcome) →
        ∃ session, after.sessions[number]? = some session ∧ session.Fails e := by
    rintro other learned ⟨mover, next, found, sessions, turn⟩ decided
    rw [sessions]
    by_cases mine : other = number
    · obtain ⟨outcome, decided⟩ := decided mine
      subst mine
      rw [known] at found
      cases found
      have failed : session.phase.outcome = some (.failed e) := by
        rcases fails with running | closing | failed
        · simp [running, Phase.outcome] at decided
        · simp [closing, Phase.outcome] at decided
        · exact failed
      exact ⟨next, List.getElem?_set_self bound, .inr (.inr (turn.outcome_eq failed))⟩
    · exact ⟨session, by rw [List.getElem?_set_ne mine, known], fails⟩
  -- It is not broken off while its work has ended but its outcome is not decided.
  have broken : ∀ {other : Nat} {outcome : Outcome α}, world.breakOff other outcome = some after →
      other = number → ∃ outcome, session.phase.outcome = some outcome := by
    rintro other outcome broken rfl
    rcases fails with running | closing | failed
    · simp [breakOff, known, running] at broken
    · simp [breakOff, known, closing] at broken
    · exact ⟨_, failed⟩
  cases event with
  | called context work =>
      cases happened
      exact ⟨session, session_kept rfl known, fails⟩
  | ticked | armed =>
      cases happened
      exact ⟨session, known, fails⟩
  | cancelled other => exact turned (cancel_turned happened) (broken happened)
  | expired other =>
      refine turned (expire_turned happened) fun mine => ?_
      obtain ⟨mover, _, expired⟩ := Option.bind_eq_some_iff.mp happened
      split at expired
      · exact broken expired mine
      · cases expired
  | advanced other around =>
      by_cases mine : other = number
      · subst mine
        rcases fails with running | closing | failed
        · simp only [after?, advance, known, Option.bind_eq_bind, Option.bind_some, running, access] at happened
          cases happened
          exact ⟨_, List.getElem?_set_self bound, .inr (.inl rfl)⟩
        · simp only [after?, advance, known, Option.bind_eq_bind, Option.bind_some, closing] at happened
          cases happened
          exact ⟨_, List.getElem?_set_self bound, .inr (.inr rfl)⟩
        · exact turned (advance_turned happened) fun _ => ⟨_, failed⟩
      · exact turned (advance_turned happened) fun same => absurd same mine

end Passbook.Session

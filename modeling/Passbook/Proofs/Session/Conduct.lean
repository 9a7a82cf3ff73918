import Passbook.Proofs.Session.Alone
import Passbook.Proofs.Session.OneRow
/-!
# Conduct

What a task comes to when it is carried out by itself, no fault is armed, and each of its questions is answered
by surroundings of its own.  It always comes to something.  A session whose row nobody else is after comes to the
same by its own steps alone, however many others have stopped on their way.
-/

namespace Passbook.Session

open Store (Tables)

variable {ν α : Type}

/-! ### Tasks -/

/-- Carry out a task on committed tables: how it ends, and what it has staged by then.  Its questions are
answered in turn by what surrounds it, from the one with a given number on. -/
def Task.conduct (committed : Tables) (around : Nat → Surroundings) :
    Task ν α → Tables → Nat → Outcome α × Tables
  | .done result, staged, _ => (.ofResult result, staged)
  | .panic text, staged, _ => (.panicked text, staged)
  | .lockRow _ next, staged, told => next.conduct committed around staged told
  | .readAccount id next, staged, told =>
      (next (Tables.visibleAccount? committed staged id)).conduct committed around staged told
  | .readEntry id next, staged, told =>
      (next (Tables.visibleEntry? committed staged id)).conduct committed around staged told
  | .readHistory user account next, staged, told =>
      (next (Tables.visibleHistory committed staged user account)).conduct committed around staged told
  | .takeInsertFault next, staged, told => (next false).conduct committed around staged (told + 1)
  | .putAccount account next, staged, told => next.conduct committed around (staged.putAccount account) told
  | .addEntry entry next, staged, told => next.conduct committed around (staged.addEntry entry) told
  | .now next, staged, told => (next (around told).now).conduct committed around staged (told + 1)
  | .newId next, staged, told => (next (around told).newId).conduct committed around staged (told + 1)
  | .convert amount target next, staged, told =>
      (next ((around told).convert amount target)).conduct committed around staged (told + 1)
  | .sleep _ next, staged, told => next.conduct committed around staged told
  | .note _ next, staged, told => next.conduct committed around staged told

section Tasks

variable {committed staged written : Tables} {around : Nat → Surroundings} {learned : List Reading}

/-- A task that is carried out so is carried out with some readings. -/
theorem Task.exists_execute (committed : Tables) (around : Nat → Surroundings) (task : Task ν α) :
    ∀ staged told, ∃ readings,
      task.execute committed staged readings = some (task.conduct committed around staged told) := by
  induction task with
  | done | panic =>
      intro staged told
      exact ⟨[], rfl⟩
  | lockRow id next inductionHypothesis | sleep millis next inductionHypothesis
  | note entry next inductionHypothesis | putAccount account next inductionHypothesis
  | addEntry entry next inductionHypothesis =>
      intro staged told
      exact inductionHypothesis _ told
  | readAccount id next inductionHypothesis | readEntry id next inductionHypothesis
  | readHistory user account next inductionHypothesis =>
      intro staged told
      exact inductionHypothesis _ staged told
  | takeInsertFault next inductionHypothesis =>
      intro staged told
      obtain ⟨readings, executed⟩ := inductionHypothesis false staged (told + 1)
      exact ⟨.insertFault false :: readings, executed⟩
  | now next inductionHypothesis =>
      intro staged told
      obtain ⟨readings, executed⟩ := inductionHypothesis (around told).now staged (told + 1)
      exact ⟨.now (around told).now :: readings, executed⟩
  | newId next inductionHypothesis =>
      intro staged told
      obtain ⟨readings, executed⟩ := inductionHypothesis (around told).newId staged (told + 1)
      exact ⟨.newId (around told).newId :: readings, executed⟩
  | convert amount target next inductionHypothesis =>
      intro staged told
      obtain ⟨readings, executed⟩ := inductionHypothesis ((around told).convert amount target) staged (told + 1)
      exact ⟨.converted ((around told).convert amount target) :: readings, executed⟩

/-- An access that is told what its surroundings answer leads to where the task was led. -/
theorem Access.conduct_eq {task next : Task ν α} {told : Nat}
    (access : Access committed task staged learned next written)
    (answered : learned = [] ∨ learned = task.told false (around told)) :
    task.conduct committed around staged told = next.conduct committed around written (told + learned.length) := by
  cases access with
  | readAccount | readEntry | readHistory | putAccount | addEntry | sleep | note => rfl
  | takeInsertFault | now | newId | convert =>
      rcases answered with none | some
      · cases none
      · cases some
        rfl

end Tasks

/-! ### Sessions -/

/-- What is told to a session at work is told to what remains of its task. -/
theorem Phase.told_eq {phase : Phase ν α} {task : Task ν α} (remaining : phase.remaining = some task)
    (armed : Bool) (around : Surroundings) :
    phase.told armed around = [] ∨ phase.told armed around = task.told armed around := by
  cases phase with
  | running =>
      cases remaining
      exact .inr rfl
  | _ => exact .inl rfl

/-- The committed tables after a run: what it has staged is published if it has completed. -/
def publish (base : Tables) : Outcome α × Tables → Tables
  | (.completed _, staged) => base.extend staged
  | _ => base

theorem publish_of_ne {outcome : Outcome α} (incomplete : ∀ value, outcome ≠ .completed value)
    (base staged : Tables) : publish base (outcome, staged) = base := by
  cases outcome with
  | completed value => exact absurd rfl (incomplete value)
  | _ => rfl

/-- A session is on its way to a goal, which is an outcome with the rows that are staged by then, from the
tables on which it has begun: what remains of its task leads there and locks no row but one; or the goal is
reached. -/
inductive Session.Towards (base : Tables) (around : Nat → Surroundings) (goal : Outcome α × Tables)
    (row : AccountId) (session : Session ν α) (committed : Tables) : Prop where
  | atWork {task : Task ν α} (told : Nat) (remaining : session.phase.remaining = some task)
      (same : committed = base) (goesOn : task.conduct base around session.staged told = goal)
      (oneRow : task.OneRow (some row))
  | reached (decided : session.phase.outcome = some goal.1) (published : committed = publish base goal)

/-- A session keeps to its way by what its task does when that is answered by what surrounds it, as long as
nothing is decided but what the task has come to. -/
theorem Works.towards {committed after base : Tables} {clock : Nat} {session next : Session ν α}
    {task : Task ν α} {learned : List Reading} {around : Nat → Surroundings} {told : Nat}
    {goal : Outcome α × Tables} {row : AccountId}
    (works : Works committed clock session task learned next after)
    (remaining : session.phase.remaining = some task) (same : committed = base)
    (goesOn : task.conduct base around session.staged told = goal) (oneRow : task.OneRow (some row))
    (answered : learned = [] ∨ learned = task.told false (around told))
    (comes : ∀ outcome, next.phase.outcome = some outcome → World.ComesTo session outcome) :
    next.Towards base around goal row after := by
  subst same
  -- What is decided is what the task has come to, and that is the goal.
  have reached : ∀ {outcome : Outcome α}, next.phase.outcome = some outcome →
      goal = (outcome, session.staged) := by
    intro outcome decided
    rcases comes outcome decided with ⟨result, remaining', rfl⟩ | ⟨text, remaining', rfl⟩
    · rw [remaining] at remaining'
      cases remaining'
      exact goesOn.symm
    · rw [remaining] at remaining'
      cases remaining'
      exact goesOn.symm
  cases works with
  | stays remaining' _ staged => exact .atWork told remaining' rfl (staged ▸ goesOn) oneRow
  | locks before remaining' _ staged =>
      subst before
      obtain ⟨only, oneRow⟩ := oneRow
      exact .atWork told remaining' rfl (staged ▸ goesOn) (only row rfl ▸ oneRow)
  | access access =>
      exact .atWork _ rfl rfl ((access.conduct_eq answered).symm.trans goesOn) (oneRow.access access)
  | lapses lapses decided =>
      cases reached decided
      exact .reached decided (publish_of_ne lapses.ne_completed _ _).symm
  | publishes _ decided =>
      cases reached decided
      exact .reached decided rfl

/-! ### A session that goes on by itself -/

/-- A session is after a row: it has locked it, or it has asked for its lock. -/
def Session.IsAfter (session : Session ν α) (row : AccountId) : Prop :=
  session.Holds row ∨ ∃ lock, session.phase.asked = some (row, lock)

namespace World

variable {world after : World ν α} {number : Nat} {session : Session ν α} {row : AccountId}

theorem HasLock.isAfter {id : AccountId} (has : world.HasLock number id) :
    ∃ session, world.sessions[number]? = some session ∧ session.IsAfter id := by
  cases has with
  | locked known holds => exact ⟨_, known, .inl holds⟩
  | given known waits => exact ⟨_, known, .inr ⟨_, by rw [waits]; rfl⟩⟩

/-- A session can go on by itself: no fault is armed, its time has come and is not over, and nobody else is
after its row. -/
structure Solo (world : World ν α) (number : Nat) (session : Session ν α) (row : AccountId) : Prop where
  order : world.InOrder
  unarmed : world.faults = .none
  known : world.sessions[number]? = some session
  inTime : session.context.isExpired world.clock = false
  due : ∀ start task, session.phase = .opening start task → start ≤ world.clock
  others : ∀ other session', other ≠ number → world.sessions[other]? = some session' → ¬session'.IsAfter row

namespace Solo

variable {base : Tables} {around : Nat → Surroundings} {goal : Outcome α × Tables}

/-- It is never stopped before it is over. -/
theorem advances (solo : world.Solo number session row)
    (towards : session.Towards base around goal row world.tables) (going : ¬session.IsOver)
    (told : Nat) : ∃ after, world.advance number (around told) = some after := by
  refine Option.ne_none_iff_exists'.mp fun stuck => ?_
  have modest : ∀ task, session.phase.remaining = some task → task.OneRow (some row) := by
    intro task remaining
    cases towards with
    | atWork _ remaining' _ _ oneRow =>
        rw [remaining] at remaining'
        cases remaining'
        exact oneRow
    | reached decided =>
        rw [Phase.remaining_of_outcome decided] at remaining
        cases remaining
  -- None of the reasons for which a session takes no step is given.
  rcases (solo.order.locks.advance_eq_none_iff solo.known (around told)).mp stuck with
    ended | ⟨opening, early⟩ | ⟨sleeps, _⟩ | ⟨waits, different, has⟩
  · exact going ended
  · have due := solo.due _ _ opening
    omega
  · exact modest (.sleep _ _) (by rw [sleeps]; rfl)
  · have only := (modest (.lockRow _ _) (by rw [waits]; rfl)).1 row rfl
    obtain ⟨session', known, isAfter⟩ := has.isAfter
    exact solo.others _ session' different known (only ▸ isAfter)

/-- It can still go on by itself after its step. -/
theorem onward (solo : world.Solo number session row) {told : Nat}
    (moved : world.advance number (around told) = some after) {next : Session ν α}
    (sessions : after.sessions = world.sessions.set number next) (context : next.context = session.context)
    (begun : next.phase.isOpening = false) : after.Solo number next row := by
  have still := advance_still moved
  have happened : world.after? (.advanced number (around told)) = some after := moved
  refine ⟨solo.order.after? happened, still.unarmed solo.unarmed, ?_, ?_, ?_, ?_⟩
  · exact session_moved sessions solo.known
  · rw [context, still.clock]
    exact solo.inTime
  · intro start task opening
    rw [opening] at begun
    cases begun
  · intro other session' different known
    rcases session_after sessions known with ⟨same, _⟩ | ⟨_, there⟩
    · exact absurd same different
    · exact solo.others other session' different there

/-- It takes a step on its way. -/
theorem step (solo : world.Solo number session row)
    (towards : session.Towards base around goal row world.tables) (going : ¬session.IsOver) :
    ∃ told after next, world.advance number (around told) = some after ∧
      after.sessions = world.sessions.set number next ∧ after.Solo number next row ∧
        next.Towards base around goal row after.tables := by
  have turned : ∀ {told after}, world.advance number (around told) = some after →
      ∃ next, after.sessions = world.sessions.set number next ∧
        Turn world.tables world.clock session (session.phase.told false (around told)) next after.tables := by
    intro told after moved
    obtain ⟨session', next, known, sessions, turn⟩ := advance_turned moved
    rw [solo.known] at known
    cases known
    rw [learned_eq solo.known, solo.unarmed] at turn
    exact ⟨next, sessions, turn⟩
  cases towards with
  | @atWork task told remaining same goesOn oneRow =>
      obtain ⟨after, moved⟩ := solo.advances (.atWork told remaining same goesOn oneRow) going told
      obtain ⟨next, sessions, turn⟩ := turned moved
      have here := session_moved sessions solo.known
      refine ⟨told, after, next, moved, sessions,
        solo.onward moved sessions turn.context_eq turn.isOpening_eq_false,
        (turn.works remaining).towards remaining same goesOn oneRow (Phase.told_eq remaining _ _) ?_⟩
      intro outcome decided
      exact advance_comesTo solo.known solo.unarmed solo.inTime (Phase.outcome_eq_none_of_remaining remaining)
        moved here decided
  | reached decided published =>
      obtain ⟨after, moved⟩ := solo.advances (.reached decided published) going 0
      obtain ⟨next, sessions, turn⟩ := turned moved
      obtain ⟨_, same, decided', _⟩ := turn.of_decided decided
      exact ⟨0, after, next, moved, sessions,
        solo.onward moved sessions turn.context_eq turn.isOpening_eq_false,
        .reached decided' (same.trans published)⟩

end Solo

/-- A session goes on by its own steps until it is over.  It has reached its goal then, and all others stand
where they stood. -/
structure GoesThrough (world : World ν α) (number : Nat) (base : Tables) (around : Nat → Surroundings)
    (goal : Outcome α × Tables) (row : AccountId) (arounds : List Surroundings) (finish : World ν α)
    (last : Session ν α) : Prop where
  ran : world.run? (arounds.map (.advanced number)) = some finish
  own : ∀ one ∈ arounds, ∃ told, one = around told
  sessions : finish.sessions = world.sessions.set number last
  solo : finish.Solo number last row
  clock : finish.clock = world.clock
  ended : last.phase = .finished goal.1
  published : finish.tables = publish base goal

variable {base : Tables} {around : Nat → Surroundings} {goal : Outcome α × Tables}

/-- A session that is over takes no more steps. -/
theorem Solo.goesThrough_of_isOver (solo : world.Solo number session row)
    (towards : session.Towards base around goal row world.tables) (isOver : session.IsOver) :
    world.GoesThrough number base around goal row [] world session := by
  obtain ⟨outcome, ended⟩ := isOver
  have sessions : world.sessions = world.sessions.set number session := by
    obtain ⟨bound, rfl⟩ := List.getElem?_eq_some_iff.mp solo.known
    exact (List.set_getElem_self bound).symm
  cases towards with
  | atWork _ remaining =>
      rw [ended] at remaining
      cases remaining
  | reached decided published =>
      rw [ended] at decided
      cases decided
      exact ⟨rfl, nofun, sessions, solo, rfl, ended, published⟩

/-- A session is over within the steps that are left to it. -/
theorem Solo.exists_goesThrough (bound : Nat) :
    ∀ {world : World ν α} {session : Session ν α}, world.Solo number session row →
      session.Towards base around goal row world.tables → session.Brief bound →
        ∃ arounds finish last, world.GoesThrough number base around goal row arounds finish last := by
  induction bound with
  | zero =>
      intro world session solo towards brief
      exact ⟨[], world, session, solo.goesThrough_of_isOver towards brief.isOver⟩
  | succ bound inductionHypothesis =>
      intro world session solo towards brief
      by_cases isOver : session.IsOver
      · exact ⟨[], world, session, solo.goesThrough_of_isOver towards isOver⟩
      · obtain ⟨told, after, next, moved, sessions, solo', towards'⟩ := solo.step towards isOver
        obtain ⟨next', here, brief'⟩ := advance_brief solo.known brief moved
        rw [solo'.known] at here
        cases here
        obtain ⟨arounds, finish, last, through⟩ := inductionHypothesis solo' towards' brief'
        refine ⟨around told :: arounds, finish, last,
          ⟨Option.bind_eq_some_iff.mpr ⟨after, moved, through.ran⟩, ?_, ?_, through.solo, ?_, through.ended,
            through.published⟩⟩
        · intro one member
          rcases List.mem_cons.mp member with rfl | later
          · exact ⟨told, rfl⟩
          · exact through.own one later
        · rw [through.sessions, sessions, List.set_set]
        · rw [through.clock, (advance_still moved).clock]

end World

end Passbook.Session

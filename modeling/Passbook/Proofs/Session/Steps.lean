import Passbook.Proofs.Session.Turn
/-!
# Steps are turns

Every step of a session, and whatever breaks it off, is a turn of this session, and all other sessions stay as they
are.  What a step does to the locks is not looked at here.
-/

namespace Passbook.Session

variable {ν α : Type}

/-! ### Turns in a world -/

/-- What a task is told by its next access. -/
def Task.told (armed : Bool) (around : Surroundings) : Task ν α → List Reading
  | .takeInsertFault _ => [.insertFault armed]
  | .now _ => [.now around.now]
  | .newId _ => [.newId around.newId]
  | .convert amount target _ => [.converted (around.convert amount target)]
  | _ => []

def Phase.told (armed : Bool) (around : Surroundings) : Phase ν α → List Reading
  | .running task => task.told armed around
  | _ => []

namespace World

/-- What a session of the world is told in its next step. -/
def learned (world : World ν α) (number : Nat) (around : Surroundings) : List Reading :=
  match world.sessions[number]? with
  | some session => session.phase.told world.faults.insert around
  | none => []

/-- One world comes out of another by a turn of a session. -/
def Turned (world : World ν α) (number : Nat) (learned : List Reading) (after : World ν α) : Prop :=
  ∃ session next, world.sessions[number]? = some session ∧
    after.sessions = world.sessions.set number next ∧
    Turn world.tables world.clock session learned next after.tables

variable {world after : World ν α} {number : Nat} {session : Session ν α} {around : Surroundings}

theorem learned_eq (found : world.sessions[number]? = some session) :
    world.learned number around = session.phase.told world.faults.insert around := by
  rw [learned, found]

@[simp] theorem sessions_findLock (world : World ν α) (id : AccountId) :
    (world.findLock id).2.sessions = world.sessions := by
  unfold findLock
  split <;> rfl

@[simp] theorem tables_findLock (world : World ν α) (id : AccountId) :
    (world.findLock id).2.tables = world.tables := by
  unfold findLock
  split <;> rfl

@[simp] theorem clock_findLock (world : World ν α) (id : AccountId) :
    (world.findLock id).2.clock = world.clock := by
  unfold findLock
  split <;> rfl

@[simp] theorem sessions_forgetUnused (world : World ν α) (id : AccountId) :
    (world.forgetUnused id).sessions = world.sessions := by
  unfold forgetUnused
  split
  · split <;> rfl
  · rfl

@[simp] theorem tables_forgetUnused (world : World ν α) (id : AccountId) :
    (world.forgetUnused id).tables = world.tables := by
  unfold forgetUnused
  split
  · split <;> rfl
  · rfl

/-- A step takes no time and arms no fault. -/
structure Still (world after : World ν α) : Prop where
  clock : after.clock = world.clock
  beginFault : after.faults.begin = true → world.faults.begin = true
  insertFault : after.faults.insert = true → world.faults.insert = true
  commitFault : after.faults.commit = true → world.faults.commit = true

theorem Still.of_eq (clock : after.clock = world.clock) (faults : after.faults = world.faults) :
    world.Still after := by
  refine ⟨clock, ?_, ?_, ?_⟩ <;> exact fun armed => faults ▸ armed

private theorem still_findLock (world : World ν α) (id : AccountId) (phase : Phase ν α) :
    world.Still ((world.findLock id).2.setPhase number session phase) := by
  unfold findLock
  split <;> exact .of_eq rfl rfl

private theorem still_releaseFirst (world : World ν α) (id : AccountId) (lock : Nat) :
    world.Still (world.releaseFirst number session id lock) := by
  unfold releaseFirst forgetUnused
  split
  · split <;> exact .of_eq rfl rfl
  · exact .of_eq rfl rfl

private theorem still_access {task : Task ν α}
    (moved : world.access number session around task = some after) : world.Still after := by
  cases task with
  | lockRow id next =>
      simp only [access] at moved
      split at moved
      · cases moved
        exact .of_eq rfl rfl
      · cases moved
        exact still_findLock world id _
  | sleep millis next =>
      simp only [access] at moved
      split at moved
      · cases moved
      · cases moved
        exact .of_eq rfl rfl
  | takeInsertFault next =>
      cases moved
      exact ⟨rfl, id, nofun, id⟩
  | _ =>
      cases moved
      exact .of_eq rfl rfl

theorem advance_still (moved : world.advance number around = some after) : world.Still after := by
  unfold advance at moved
  obtain ⟨session, _, moved⟩ := Option.bind_eq_some_iff.mp moved
  split at moved
  · split at moved
    · cases moved
    · split at moved
      · cases moved
        exact ⟨rfl, nofun, id, id⟩
      · cases moved
        exact .of_eq rfl rfl
  · exact still_access moved
  · split at moved
    · cases moved
      exact .of_eq rfl rfl
    · cases moved
      exact .of_eq rfl rfl
  · split at moved
    · split at moved
      · cases moved
        exact .of_eq rfl rfl
      · cases moved
    · cases moved
  · cases moved
    exact .of_eq rfl rfl
  · split at moved
    · cases moved
      exact .of_eq rfl rfl
    · cases moved
      exact .of_eq rfl rfl
  · split at moved
    · cases moved
      exact ⟨rfl, id, id, nofun⟩
    · cases moved
      exact .of_eq rfl rfl
  · cases moved
    exact .of_eq rfl rfl
  · split at moved
    · cases moved
      exact .of_eq rfl rfl
    · cases moved
      exact still_releaseFirst world _ _
  · cases moved

/-- A step of a task is an access, or it begins to lock a row, or it ends the work. -/
private theorem access_turned {task : Task ν α} (found : world.sessions[number]? = some session)
    (phase : session.phase = .running task)
    (moved : world.access number session around task = some after) :
    world.Turned number (task.told world.faults.insert around) after := by
  have running : session.phase.remaining = some task := by rw [phase]; rfl
  cases task with
  | done result =>
      cases moved
      exact ⟨session, _, found, rfl, .pass (.closing result) running rfl rfl (by rw [phase]; rfl)⟩
  | panic text =>
      cases moved
      exact ⟨session, _, found, rfl, .lapse running (.brokeDown text)⟩
  | lockRow id next =>
      simp only [access] at moved
      split at moved
      · rename_i holds
        cases moved
        exact ⟨session, _, found, rfl, .lockAgain running (Session.holds_iff.mp holds)⟩
      · cases moved
        let phase' : Phase ν α := .acquiring id (world.findLock id).1 next
        refine ⟨session, { session with phase := phase', since := world.clock }, found, ?_, ?_⟩
        · simp [setPhase, setSession, phase']
        · simp only [setPhase, setSession, tables_findLock]
          exact .pass phase' running rfl rfl (by rw [phase]; rfl)
  | sleep millis next =>
      simp only [access] at moved
      split at moved
      · cases moved
      · cases moved
        exact ⟨session, _, found, rfl, .access phase (.sleep millis next session.staged)⟩
  | readAccount id next =>
      cases moved
      exact ⟨session, _, found, rfl, .access phase (.readAccount id next session.staged)⟩
  | readEntry id next =>
      cases moved
      exact ⟨session, _, found, rfl, .access phase (.readEntry id next session.staged)⟩
  | readHistory user account next =>
      cases moved
      exact ⟨session, _, found, rfl,
        .access phase (.readHistory user account next session.staged)⟩
  | takeInsertFault next =>
      cases moved
      exact ⟨session, _, found, rfl,
        .access phase (.takeInsertFault next session.staged world.faults.insert)⟩
  | putAccount account next =>
      cases moved
      exact ⟨session, _, found, rfl, .access phase (.putAccount account next session.staged)⟩
  | addEntry entry next =>
      cases moved
      exact ⟨session, _, found, rfl, .access phase (.addEntry entry next session.staged)⟩
  | now next =>
      cases moved
      exact ⟨session, _, found, rfl, .access phase (.now next session.staged around.now)⟩
  | newId next =>
      cases moved
      exact ⟨session, _, found, rfl, .access phase (.newId next session.staged around.newId)⟩
  | convert amount target next =>
      cases moved
      exact ⟨session, _, found, rfl,
        .access phase
          (.convert amount target next session.staged (around.convert amount target))⟩
  | note entry next =>
      cases moved
      exact ⟨session, _, found, rfl, .access phase (.note entry next session.staged)⟩

/-- A step of a session is a turn of it. -/
theorem advance_turned (moved : world.advance number around = some after) :
    world.Turned number (world.learned number around) after := by
  unfold advance at moved
  obtain ⟨session, found, moved⟩ := Option.bind_eq_some_iff.mp moved
  rw [learned_eq found]
  cases phase : session.phase with
  | running task =>
      rw [phase] at moved
      exact access_turned found phase moved
  | opening start task =>
      simp only [phase] at moved
      split at moved
      · cases moved
      · split at moved
        · cases moved
          exact ⟨session, _, found, rfl, .miss phase (.begin task)⟩
        · cases moved
          exact ⟨session, _, found, rfl,
            .pass (.running task) (by rw [phase]; rfl) rfl rfl (by rw [phase]; rfl)⟩
  | acquiring id lock next =>
      simp only [phase] at moved
      split at moved
      · cases moved
        exact ⟨session, _, found, rfl, .lock lock (by rw [phase]; rfl)⟩
      · cases moved
        exact ⟨session, _, found, rfl,
          .pass (.waiting id lock next) (by rw [phase]; rfl) rfl rfl (by rw [phase]; rfl)⟩
  | waiting id lock next =>
      simp only [phase] at moved
      split at moved
      · split at moved
        · cases moved
          exact ⟨session, _, found, rfl, .lock lock (by rw [phase]; rfl)⟩
        · cases moved
      · cases moved
  | closing result =>
      cases result with
      | error e =>
          simp only [phase] at moved
          cases moved
          exact ⟨session, _, found, rfl, .lapse (by rw [phase]; rfl) (.refused e)⟩
      | ok value =>
          simp only [phase] at moved
          split at moved
          · cases moved
            exact ⟨session, _, found, rfl, .lapse (by rw [phase]; rfl) (.overdue _)⟩
          · rename_i inTime
            cases moved
            exact ⟨session, _, found, rfl, .approve phase (Bool.eq_false_iff.mpr inTime)⟩
  | committing value =>
      simp only [phase] at moved
      split at moved
      · cases moved
        exact ⟨session, _, found, rfl, .lapse (by rw [phase]; rfl) (.commit value)⟩
      · cases moved
        exact ⟨session, _, found, rfl,
          .pass (.publishing value) (by rw [phase]; rfl) rfl rfl (by rw [phase]; rfl)⟩
  | publishing value =>
      simp only [phase] at moved
      cases moved
      exact ⟨session, _, found, rfl, .publish phase⟩
  | releasing outcome =>
      simp only [phase] at moved
      split at moved
      · rename_i free
        cases moved
        exact ⟨session, _, found, rfl, .finish phase free⟩
      · cases moved
        refine ⟨session, { session with held := session.held.tail }, found, ?_, ?_⟩
        · simp [releaseFirst, setSession, modifyLock]
        · simp only [releaseFirst, tables_forgetUnused]
          exact .release phase
  | finished outcome =>
      simp only [phase] at moved
      cases moved

/-- To break a run off is a turn that ends it. -/
theorem breakOff_turned {outcome : Outcome α} (void : ∀ task : Task ν α, Lapses task outcome)
    (broken : world.breakOff number outcome = some after) : world.Turned number [] after := by
  unfold breakOff at broken
  obtain ⟨session, found, broken⟩ := Option.bind_eq_some_iff.mp broken
  cases phase : session.phase with
  | opening start task =>
      simp only [phase] at broken
      cases broken
      exact ⟨session, _, found, rfl, .miss phase (void task)⟩
  | acquiring id lock next =>
      simp only [phase] at broken
      cases broken
      exact ⟨session, _, found, rfl, .lapse (by rw [phase]; rfl) (void _)⟩
  | waiting id lock next =>
      simp only [phase] at broken
      cases broken
      exact ⟨session, _, found, rfl, .lapse (by rw [phase]; rfl) (void _)⟩
  | running task =>
      cases task with
      | convert | sleep =>
          simp only [phase] at broken
          cases broken
          exact ⟨session, _, found, rfl, .lapse (by rw [phase]; rfl) (void _)⟩
      | _ =>
          simp only [phase] at broken
          cases broken
  | _ =>
      simp only [phase] at broken
      cases broken

/-- A run that is broken off is decided. -/
theorem breakOff_decided {outcome : Outcome α} (broken : world.breakOff number outcome = some after) :
    (∃ next, after.sessions = world.sessions.set number next ∧ next.phase.outcome = some outcome) ∧
      world.Still after := by
  unfold breakOff at broken
  obtain ⟨session, _, broken⟩ := Option.bind_eq_some_iff.mp broken
  split at broken
  · cases broken
    exact ⟨⟨_, rfl, rfl⟩, .of_eq rfl rfl⟩
  · cases broken
    exact ⟨⟨_, rfl, rfl⟩, .of_eq rfl rfl⟩
  · cases broken
    exact ⟨⟨_, rfl, rfl⟩, .of_eq rfl rfl⟩
  · cases broken
    exact ⟨⟨_, rfl, rfl⟩, .of_eq rfl rfl⟩
  · cases broken
    exact ⟨⟨_, rfl, rfl⟩, .of_eq rfl rfl⟩
  · cases broken

/-- A run whose time is over is broken off. -/
theorem expire_turned (expired : world.expire number = some after) :
    world.Turned number [] after := by
  unfold expire at expired
  obtain ⟨session, found, expired⟩ := Option.bind_eq_some_iff.mp expired
  split at expired
  · exact breakOff_turned .overdue expired
  · cases expired

/-- A run that is cancelled is broken off. -/
theorem cancel_turned (broken : world.breakOff number .cancelled = some after) :
    world.Turned number [] after :=
  breakOff_turned .cancelled broken

/-- The session that has moved stands where it stood. -/
theorem session_moved {session next : Session ν α} (sessions : after.sessions = world.sessions.set number next)
    (known : world.sessions[number]? = some session) : after.sessions[number]? = some next := by
  obtain ⟨bound, _⟩ := List.getElem?_eq_some_iff.mp known
  rw [sessions, List.getElem?_set_self bound]

/-- A session of the world after a turn is the one that has moved, or one of those before. -/
theorem session_after {next : Session ν α}
    (sessions : after.sessions = world.sessions.set number next) {other : Nat}
    {found : Session ν α} (here : after.sessions[other]? = some found) :
    other = number ∧ found = next ∨ other ≠ number ∧ world.sessions[other]? = some found := by
  rw [sessions, List.getElem?_set] at here
  split at here
  · rename_i same
    split at here
    · exact .inl ⟨same.symm, (Option.some.inj here).symm⟩
    · cases here
  · rename_i different
    exact .inr ⟨Ne.symm different, here⟩

/-- The sessions before are still there when one has been added. -/
theorem session_kept {session new : Session ν α} (sessions : after.sessions = world.sessions ++ [new])
    {other : Nat} (known : world.sessions[other]? = some session) :
    after.sessions[other]? = some session := by
  obtain ⟨bound, _⟩ := List.getElem?_eq_some_iff.mp known
  rw [sessions, List.getElem?_append_left bound, known]

/-- A session of the world after one has been added is one of those before, or the one that has been added. -/
theorem session_added {new : Session ν α} (sessions : after.sessions = world.sessions ++ [new])
    {other : Nat} {found : Session ν α} (here : after.sessions[other]? = some found) :
    world.sessions[other]? = some found ∨ other = world.sessions.length ∧ found = new := by
  rw [sessions, List.getElem?_append] at here
  split at here
  · exact .inl here
  · rename_i outside
    rw [List.getElem?_singleton] at here
    split at here
    · cases here
      exact .inr ⟨by omega, rfl⟩
    · cases here

end World

end Passbook.Session

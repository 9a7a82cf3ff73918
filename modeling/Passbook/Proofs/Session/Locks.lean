import Passbook.Proofs.Session.Steps
/-!
# Row locks

The sessions that have asked for a lock stand in a line, and the first of them has got it.  All sessions
find a lock by way of the registry, so that nobody who refers to a lock is ever left with another one than
those who come later.  From this it follows that a row is locked by one session at a time, whatever the
sessions do and in whatever order they do it.
-/

namespace Passbook.Session

variable {ν α : Type}

/-! ### Lines -/

namespace RowLock

variable {lock : RowLock} {number : Nat}

/-- The sessions in line for a lock.  The first of them has got it. -/
def line (lock : RowLock) : List Nat := lock.holder.toList ++ lock.queue

/-- Nobody waits for a lock that nobody has, and nobody stands in line twice. -/
structure Orderly (lock : RowLock) : Prop where
  idle : lock.holder = none → lock.queue = []
  nodup : lock.line.Nodup

theorem Orderly.new : Orderly ⟨none, []⟩ := ⟨fun _ => rfl, List.nodup_nil⟩

/-- A lock that is passed on goes to the next in line. -/
theorem line_passOn (orderly : lock.Orderly) : lock.passOn.line = lock.line.tail := by
  cases holder : lock.holder with
  | none => simp [line, passOn, holder, orderly.idle holder]
  | some number =>
      cases queue : lock.queue <;> simp [line, passOn, holder, queue]

theorem Orderly.passOn (orderly : lock.Orderly) : lock.passOn.Orderly where
  idle := by
    intro free
    have empty : lock.queue = [] := List.head?_eq_none_iff.mp free
    simp [RowLock.passOn, empty]
  nodup := by
    rw [line_passOn orderly]
    exact orderly.nodup.tail

/-- A session that leaves is no longer in line. -/
theorem line_leave (orderly : lock.Orderly) (number : Nat) :
    (lock.leave number).line = lock.line.erase number := by
  unfold leave
  split
  · rename_i given
    rw [line_passOn orderly]
    simp [line, given]
  · rename_i other
    cases holder : lock.holder with
    | none => simp [line, holder, orderly.idle holder]
    | some holder' =>
        have different : holder' ≠ number := by simpa [holder] using other
        simp [line, holder, different]

theorem Orderly.leave (orderly : lock.Orderly) (number : Nat) : (lock.leave number).Orderly where
  idle := by
    unfold RowLock.leave
    split
    · exact orderly.passOn.idle
    · intro free
      simp [orderly.idle free]
  nodup := by
    rw [line_leave orderly]
    exact orderly.nodup.erase number

/-- Whoever asks for a lock that is taken stands at the end of the line. -/
theorem Orderly.ask (orderly : lock.Orderly) (taken : lock.holder ≠ none)
    (absent : number ∉ lock.line) :
    Orderly { lock with queue := lock.queue ++ [number] } where
  idle := fun free => absurd free taken
  nodup := by
    have longer :
        line { lock with queue := lock.queue ++ [number] } = lock.line ++ [number] := by
      simp [line]
    rw [longer, List.nodup_append]
    refine ⟨orderly.nodup, by simp, ?_⟩
    intro one oneMember other otherMember same
    rw [List.mem_singleton] at otherMember
    exact absent (otherMember ▸ same ▸ oneMember)

end RowLock

/-! ### How locks change hands -/

/-- The lock a session has found but not asked for yet. -/
def Phase.found : Phase ν α → Option (AccountId × Nat)
  | .acquiring id lock _ => some (id, lock)
  | _ => none

def Phase.asked : Phase ν α → Option (AccountId × Nat)
  | .waiting id lock _ => some (id, lock)
  | _ => none

/-- A session is about to get a row's lock, or waits for it. -/
def Phase.Seeks (phase : Phase ν α) (id : AccountId) (lock : Nat) : Prop :=
  phase.found = some (id, lock) ∨ phase.asked = some (id, lock)

def Session.InLine (session : Session ν α) (lock : Nat) : Prop :=
  ∃ id, (id, lock) ∈ session.held ∨ session.phase.asked = some (id, lock)

/-- A session refers to a lock: it has it, or is about to get it, or waits for it. -/
def Session.Refers (session : Session ν α) (id : AccountId) (lock : Nat) : Prop :=
  (id, lock) ∈ session.held ∨ session.phase.Seeks id lock

theorem Session.refersTo_of_refers {session : Session ν α} {id : AccountId} {lock : Nat}
    (refers : session.Refers id lock) : session.refersTo lock = true := by
  rcases refers with held | seeks
  · have has : session.held.any (·.2 == lock) = true :=
      List.any_eq_true.mpr ⟨(id, lock), held, beq_self_eq_true lock⟩
    simp [refersTo, has]
  · cases phase : session.phase <;> simp_all [refersTo, Phase.Seeks, Phase.found, Phase.asked]

/-- A lock that has been found has not been asked for. -/
theorem Phase.asked_of_found {phase : Phase ν α} {id : AccountId} {lock : Nat}
    (found : phase.found = some (id, lock)) : phase.asked = none := by
  cases phase <;> first | rfl | cases found

theorem Phase.not_seeks {phase : Phase ν α} (found : phase.found = none) (asked : phase.asked = none)
    {id : AccountId} {lock : Nat} : ¬phase.Seeks id lock := by
  simp [Seeks, found, asked]

/-- What a turn of a session does to the locks. -/
inductive LockMove (world : World ν α) (number : Nat) (session : Session ν α) :
    Session ν α → World ν α → Prop where
  /-- Nothing, unless the session turns away from a lock it has found. -/
  | quiet {next : Session ν α} {after : World ν α} (registry : after.registry = world.registry)
      (locks : after.locks = world.locks) (held : next.held = session.held)
      (before : session.phase.asked = none) (found : next.phase.found = none)
      (asked : next.phase.asked = none) : LockMove world number session next after
  /-- The session finds the lock of a row it has not locked. -/
  | find {id : AccountId} {next : Session ν α} {after : World ν α}
      (registry : after.registry = (world.findLock id).2.registry)
      (locks : after.locks = (world.findLock id).2.locks) (held : next.held = session.held)
      (before : session.phase.asked = none) (free : ¬session.Holds id)
      (found : next.phase.found = some (id, (world.findLock id).1))
      (asked : next.phase.asked = none) : LockMove world number session next after
  /-- The lock is free and the session takes it. -/
  | take {id : AccountId} {lock : Nat} {queue : List Nat} {next : Session ν α} {after : World ν α}
      (registry : after.registry = world.registry)
      (locks : after.locks = world.locks.modify lock fun l => { l with holder := some number })
      (held : next.held = (id, lock) :: session.held)
      (before : session.phase.found = some (id, lock)) (free : world.locks[lock]? = some ⟨none, queue⟩)
      (found : next.phase.found = none) (asked : next.phase.asked = none) :
      LockMove world number session next after
  /-- The lock is taken and the session asks for it. -/
  | ask {id : AccountId} {lock : Nat} {next : Session ν α} {after : World ν α}
      (registry : after.registry = world.registry)
      (locks : after.locks = world.locks.modify lock fun l => { l with queue := l.queue ++ [number] })
      (held : next.held = session.held) (before : session.phase.found = some (id, lock))
      (taken : ∀ queue, world.locks[lock]? ≠ some ⟨none, queue⟩) (found : next.phase.found = none)
      (asked : next.phase.asked = some (id, lock)) : LockMove world number session next after
  /-- The session has been given the lock it waits for. -/
  | receive {id : AccountId} {lock : Nat} {queue : List Nat} {next : Session ν α}
      {after : World ν α} (registry : after.registry = world.registry)
      (locks : after.locks = world.locks) (held : next.held = (id, lock) :: session.held)
      (before : session.phase.asked = some (id, lock))
      (given : world.locks[lock]? = some ⟨some number, queue⟩) (found : next.phase.found = none)
      (asked : next.phase.asked = none) : LockMove world number session next after
  /-- The session waits no longer. -/
  | leave {id : AccountId} {lock : Nat} {next : Session ν α} {after : World ν α}
      (registry : after.registry = world.registry)
      (locks : after.locks = world.locks.modify lock (·.leave number))
      (held : next.held = session.held) (before : session.phase.asked = some (id, lock))
      (found : next.phase.found = none) (asked : next.phase.asked = none) :
      LockMove world number session next after
  /-- The session gives up a lock. -/
  | release {id : AccountId} {lock : Nat} {rest : List (AccountId × Nat)} {next : Session ν α}
      {after : World ν α}
      (registry : after.registry = world.registry ∨
        after.registry = world.registry.filter (·.1 ≠ id) ∧
          ∃ lock, world.registry.lookup id = some lock ∧
            ∀ session ∈ after.sessions, session.refersTo lock = false)
      (locks : after.locks = world.locks.modify lock RowLock.passOn)
      (before : session.held = (id, lock) :: rest) (held : next.held = rest)
      (idle : session.phase.asked = none) (found : next.phase.found = none)
      (asked : next.phase.asked = none) : LockMove world number session next after

namespace World

/-- A turn of a session, with what it does to the locks. -/
def Moves (world : World ν α) (number : Nat) (after : World ν α) : Prop :=
  ∃ session next, world.sessions[number]? = some session ∧
    after.sessions = world.sessions.set number next ∧ LockMove world number session next after

variable {world after : World ν α} {number : Nat} {session : Session ν α} {around : Surroundings}

/-- A step of a task changes no lock, unless it looks for one. -/
private theorem access_moves {task : Task ν α} (found : world.sessions[number]? = some session)
    (phase : session.phase = .running task)
    (moved : world.access number session around task = some after) : world.Moves number after := by
  have still : session.phase.asked = none := by rw [phase]; rfl
  cases task with
  | lockRow id next =>
      simp only [access] at moved
      split at moved
      · cases moved
        exact ⟨session, _, found, rfl, .quiet rfl rfl rfl still rfl rfl⟩
      · rename_i unlocked
        cases moved
        refine ⟨session, _, found, by simp only [setPhase, setSession, sessions_findLock]; rfl, ?_⟩
        refine .find rfl rfl rfl still ?_ rfl rfl
        exact fun holds => unlocked (Session.holds_iff.mpr holds)
  | sleep millis next =>
      simp only [access] at moved
      split at moved
      · cases moved
      · cases moved
        exact ⟨session, _, found, rfl, .quiet rfl rfl rfl still rfl rfl⟩
  | _ =>
      cases moved
      exact ⟨session, _, found, rfl, .quiet rfl rfl rfl still rfl rfl⟩

/-- A lock that is given up is forgotten if nobody refers to it. -/
private theorem registry_releaseFirst (world : World ν α) (number : Nat) (session : Session ν α)
    (id : AccountId) (lock : Nat) :
    (world.releaseFirst number session id lock).registry = world.registry ∨
      (world.releaseFirst number session id lock).registry = world.registry.filter (·.1 ≠ id) ∧
        ∃ known, world.registry.lookup id = some known ∧
          ∀ other ∈ (world.releaseFirst number session id lock).sessions,
            other.refersTo known = false := by
  simp only [releaseFirst, forgetUnused]
  split
  · rename_i known registered
    split
    · exact .inl rfl
    · rename_i unused
      refine .inr ⟨rfl, known, registered, ?_⟩
      intro other member
      have unused' := List.any_eq_false.mp (Bool.eq_false_iff.mpr unused) other member
      exact Bool.eq_false_iff.mpr unused'
  · exact .inl rfl

private theorem locks_releaseFirst (world : World ν α) (number : Nat) (session : Session ν α)
    (id : AccountId) (lock : Nat) :
    (world.releaseFirst number session id lock).locks = world.locks.modify lock RowLock.passOn := by
  simp only [releaseFirst, forgetUnused]
  split
  · split <;> rfl
  · rfl

/-- What a step of a session does to the locks. -/
theorem advance_moves (moved : world.advance number around = some after) :
    world.Moves number after := by
  unfold advance at moved
  obtain ⟨session, found, moved⟩ := Option.bind_eq_some_iff.mp moved
  cases phase : session.phase with
  | running task =>
      rw [phase] at moved
      exact access_moves found phase moved
  | opening start task =>
      have still : session.phase.asked = none := by rw [phase]; rfl
      simp only [phase] at moved
      split at moved
      · cases moved
      · split at moved <;> cases moved <;>
          exact ⟨session, _, found, rfl, .quiet rfl rfl rfl still rfl rfl⟩
  | acquiring id lock next =>
      have before : session.phase.found = some (id, lock) := by rw [phase]; rfl
      simp only [phase] at moved
      split at moved
      · rename_i queue free
        cases moved
        exact ⟨session, _, found, rfl, .take rfl rfl rfl before free rfl rfl⟩
      · rename_i taken
        cases moved
        exact ⟨session, _, found, rfl, .ask rfl rfl rfl before taken rfl rfl⟩
  | waiting id lock next =>
      have before : session.phase.asked = some (id, lock) := by rw [phase]; rfl
      simp only [phase] at moved
      split at moved
      · rename_i holder queue given
        split at moved
        · rename_i mine
          cases moved
          exact ⟨session, _, found, rfl, .receive rfl rfl rfl before (mine ▸ given) rfl rfl⟩
        · cases moved
      · cases moved
  | closing result =>
      have still : session.phase.asked = none := by rw [phase]; rfl
      cases result with
      | error e =>
          simp only [phase] at moved
          cases moved
          exact ⟨session, _, found, rfl, .quiet rfl rfl rfl still rfl rfl⟩
      | ok value =>
          simp only [phase] at moved
          split at moved <;> cases moved <;>
            exact ⟨session, _, found, rfl, .quiet rfl rfl rfl still rfl rfl⟩
  | committing value =>
      have still : session.phase.asked = none := by rw [phase]; rfl
      simp only [phase] at moved
      split at moved <;> cases moved <;>
        exact ⟨session, _, found, rfl, .quiet rfl rfl rfl still rfl rfl⟩
  | publishing value =>
      have still : session.phase.asked = none := by rw [phase]; rfl
      simp only [phase] at moved
      cases moved
      exact ⟨session, _, found, rfl, .quiet rfl rfl rfl still rfl rfl⟩
  | releasing outcome =>
      have still : session.phase.asked = none := by rw [phase]; rfl
      have unfound : session.phase.found = none := by rw [phase]; rfl
      simp only [phase] at moved
      split at moved
      · cases moved
        exact ⟨session, _, found, rfl, .quiet rfl rfl rfl still rfl rfl⟩
      · rename_i id lock rest held
        cases moved
        refine ⟨session, { session with held := session.held.tail }, found, ?_, ?_⟩
        · simp [releaseFirst, setSession, modifyLock]
        · exact .release (registry_releaseFirst world number session id lock)
            (locks_releaseFirst world number session id lock) held (by simp [held]) still unfound still
  | finished outcome =>
      simp only [phase] at moved
      cases moved

/-- What it does to the locks to break a run off. -/
theorem breakOff_moves {outcome : Outcome α}
    (broken : world.breakOff number outcome = some after) : world.Moves number after := by
  unfold breakOff at broken
  obtain ⟨session, found, broken⟩ := Option.bind_eq_some_iff.mp broken
  cases phase : session.phase with
  | waiting id lock next =>
      have before : session.phase.asked = some (id, lock) := by rw [phase]; rfl
      simp only [phase] at broken
      cases broken
      exact ⟨session, _, found, rfl, .leave rfl rfl rfl before rfl rfl⟩
  | opening start task =>
      have still : session.phase.asked = none := by rw [phase]; rfl
      simp only [phase] at broken
      cases broken
      exact ⟨session, _, found, rfl, .quiet rfl rfl rfl still rfl rfl⟩
  | acquiring id lock next =>
      have still : session.phase.asked = none := by rw [phase]; rfl
      simp only [phase] at broken
      cases broken
      exact ⟨session, _, found, rfl, .quiet rfl rfl rfl still rfl rfl⟩
  | running task =>
      have still : session.phase.asked = none := by rw [phase]; rfl
      cases task with
      | convert | sleep =>
          simp only [phase] at broken
          cases broken
          exact ⟨session, _, found, rfl, .quiet rfl rfl rfl still rfl rfl⟩
      | _ =>
          simp only [phase] at broken
          cases broken
  | _ =>
      simp only [phase] at broken
      cases broken

/-- What it does to the locks when the time of a run is over. -/
theorem expire_moves (expired : world.expire number = some after) : world.Moves number after := by
  unfold expire at expired
  obtain ⟨session, found, expired⟩ := Option.bind_eq_some_iff.mp expired
  split at expired
  · exact breakOff_moves expired
  · cases expired

end World

end Passbook.Session

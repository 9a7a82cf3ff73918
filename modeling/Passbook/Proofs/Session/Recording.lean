import Passbook.Proofs.Session.Exchanges
/-!
# Recording changes nothing

Work that records its exchanges does what the work it records does.  Forgetting the notes of exchanges takes a
step of a session that is about to do something else to the same step of the work as it is, and undoes a step
that notes an exchange.  So every history of works is what is left of a history of recorded ones, in which
every exchange is noted at once.
-/

namespace Passbook.Session

variable {ν α : Type}

/-! ### Forgetting exchanges -/

/-- The task without the notes of exchanges. -/
def Task.unrecorded : Task (ν ⊕ Exchange) α → Task ν α
  | .done result => .done result
  | .panic text => .panic text
  | .lockRow id next => .lockRow id next.unrecorded
  | .readAccount id next => .readAccount id fun row => (next row).unrecorded
  | .readEntry id next => .readEntry id fun row => (next row).unrecorded
  | .readHistory user account next => .readHistory user account fun entries => (next entries).unrecorded
  | .takeInsertFault next => .takeInsertFault fun armed => (next armed).unrecorded
  | .putAccount account next => .putAccount account next.unrecorded
  | .addEntry entry next => .addEntry entry next.unrecorded
  | .now next => .now fun t => (next t).unrecorded
  | .newId next => .newId fun id => (next id).unrecorded
  | .convert amount target next => .convert amount target fun answer => (next answer).unrecorded
  | .sleep millis next => .sleep millis next.unrecorded
  | .note (.inl entry) next => .note entry next.unrecorded
  | .note (.inr _) next => next.unrecorded

def Phase.unrecorded : Phase (ν ⊕ Exchange) α → Phase ν α
  | .opening start task => .opening start task.unrecorded
  | .running task => .running task.unrecorded
  | .acquiring id lock next => .acquiring id lock next.unrecorded
  | .waiting id lock next => .waiting id lock next.unrecorded
  | .closing result => .closing result
  | .committing value => .committing value
  | .publishing value => .publishing value
  | .releasing outcome => .releasing outcome
  | .finished outcome => .finished outcome

def Session.unrecorded (session : Session (ν ⊕ Exchange) α) : Session ν α where
  context := session.context
  phase := session.phase.unrecorded
  since := session.since
  held := session.held
  staged := session.staged
  notes := session.notes.filterMap Sum.getLeft?

def World.unrecorded (world : World (ν ⊕ Exchange) α) : World ν α where
  tables := world.tables
  faults := world.faults
  registry := world.registry
  locks := world.locks
  clock := world.clock
  sessions := world.sessions.map Session.unrecorded

private theorem unrecorded_write (row : Except LedgerError Account)
    (next : Except LedgerError Unit → Task (ν ⊕ Exchange) α) :
    (perform.write row next).unrecorded = perform.write row fun answer => (next answer).unrecorded := by
  cases row <;> rfl

/-- Nothing else is forgotten of a call. -/
theorem unrecorded_perform (query : Store.Call)
    (next : Except LedgerError query.Answer → Task (ν ⊕ Exchange) α) :
    (perform query next).unrecorded = perform query fun answer => (next answer).unrecorded := by
  cases query with
  | account | accountIncludingClosed | accountForUpdate | entry | history => rfl
  | createAccount account | updateAccount account =>
      simp only [perform, Task.unrecorded, unrecorded_write]
  | deleteAccount id =>
      simp only [perform, Task.unrecorded, Task.lockRow.injEq, Task.readAccount.injEq, true_and]
      funext row
      cases Store.requireLive id row <;> simp only [Task.unrecorded, unrecorded_write]
  | createEntry entry =>
      simp only [perform, Task.unrecorded, Task.takeInsertFault.injEq]
      funext armed
      cases armed with
      | true => rfl
      | false =>
          simp only [Bool.false_eq_true, if_false, Task.unrecorded, Task.readAccount.injEq, true_and]
          funext row
          cases Store.requireReference entry row with
          | error e => rfl
          | ok =>
              simp only [Task.unrecorded, Task.readEntry.injEq, true_and]
              funext row
              cases Store.requireFresh entry row <;> rfl

/-- What is left of recorded work is the work. -/
theorem Work.unrecorded_task_recorded (work : Work ν α) : work.recorded.task.unrecorded = work.task := by
  induction work with
  | done | panic => rfl
  | call query next inductionHypothesis =>
      simp only [recorded, task, unrecorded_perform, Task.unrecorded, inductionHypothesis]
  | now next inductionHypothesis | newId next inductionHypothesis
  | convert amount target next inductionHypothesis | sleep millis next inductionHypothesis
  | note entry next inductionHypothesis =>
      simp only [recorded, task, Task.unrecorded, inductionHypothesis]

namespace World

variable {world : World (ν ⊕ Exchange) α} {number : Nat} {session : Session (ν ⊕ Exchange) α}

theorem sessions_unrecorded (known : world.sessions[number]? = some session) :
    world.unrecorded.sessions[number]? = some session.unrecorded := by
  simp [unrecorded, known]

@[simp] theorem unrecorded_setPhase (world : World (ν ⊕ Exchange) α) (number : Nat)
    (session : Session (ν ⊕ Exchange) α) (phase : Phase (ν ⊕ Exchange) α) :
    (world.setPhase number session phase).unrecorded =
      world.unrecorded.setPhase number session.unrecorded phase.unrecorded := by
  simp [unrecorded, setPhase, setSession, Session.unrecorded]

@[simp] theorem unrecorded_modifyLock (world : World (ν ⊕ Exchange) α) (lock : Nat)
    (change : RowLock → RowLock) :
    (world.modifyLock lock change).unrecorded = world.unrecorded.modifyLock lock change := rfl

theorem unrecorded_findLock (world : World (ν ⊕ Exchange) α) (id : AccountId) :
    world.unrecorded.findLock id = ((world.findLock id).1, (world.findLock id).2.unrecorded) := by
  unfold findLock
  have same : world.unrecorded.registry = world.registry := rfl
  rw [same]
  cases world.registry.lookup id <;> rfl

@[simp] theorem refersTo_unrecorded (session : Session (ν ⊕ Exchange) α) (lock : Nat) :
    session.unrecorded.refersTo lock = session.refersTo lock := by
  unfold Session.refersTo Session.unrecorded
  cases session.phase <;> rfl

theorem unrecorded_forgetUnused (world : World (ν ⊕ Exchange) α) (id : AccountId) :
    (world.forgetUnused id).unrecorded = world.unrecorded.forgetUnused id := by
  unfold forgetUnused
  have same : world.unrecorded.registry = world.registry := rfl
  rw [same]
  cases world.registry.lookup id with
  | none => rfl
  | some lock =>
      have referred : world.unrecorded.sessions.any (·.refersTo lock) =
          world.sessions.any (·.refersTo lock) := by
        simp [unrecorded, Function.comp_def]
      simp only [referred]
      split <;> rfl

theorem unrecorded_releaseFirst (world : World (ν ⊕ Exchange) α) (number : Nat)
    (session : Session (ν ⊕ Exchange) α) (id : AccountId) (lock : Nat) :
    (world.releaseFirst number session id lock).unrecorded =
      world.unrecorded.releaseFirst number session.unrecorded id lock := by
  unfold releaseFirst
  rw [unrecorded_forgetUnused, unrecorded_modifyLock]
  simp [unrecorded, setSession, Session.unrecorded]

end World

/-! ### The same steps -/

/-- Whether a session is to note an exchange next. -/
def Phase.isNoting : Phase (ν ⊕ Exchange) α → Bool
  | .running (.note (.inr _) _) => true
  | _ => false

namespace World

variable {world : World (ν ⊕ Exchange) α} {number : Nat} {session : Session (ν ⊕ Exchange) α}

/-- An access that is no note of an exchange is the same access. -/
theorem unrecorded_access (world : World (ν ⊕ Exchange) α) (number : Nat)
    (session : Session (ν ⊕ Exchange) α) (around : Surroundings) {task : Task (ν ⊕ Exchange) α}
    (other : ∀ exchange rest, task ≠ .note (.inr exchange) rest) :
    world.unrecorded.access number session.unrecorded around task.unrecorded =
      (world.access number session around task).map unrecorded := by
  cases task with
  | note entry next =>
      cases entry with
      | inr exchange => exact absurd rfl (other exchange next)
      | inl entry => simp [access, Task.unrecorded, Session.unrecorded, Phase.unrecorded]
  | lockRow id next =>
      simp only [access, Task.unrecorded, unrecorded_findLock]
      have holds : session.unrecorded.holds id = session.holds id := rfl
      rw [holds]
      split <;> simp [access.goOn, Phase.unrecorded]
  | sleep millis next =>
      simp only [access, Task.unrecorded]
      have clock : world.unrecorded.clock = world.clock := rfl
      have since : session.unrecorded.since = session.since := rfl
      rw [clock, since]
      split <;> simp [access.goOn, Phase.unrecorded]
  | done | panic | now | newId | convert =>
      simp only [access, access.goOn, Task.unrecorded, Option.map_some, unrecorded_setPhase,
        Phase.unrecorded]
  | readAccount | readEntry | readHistory | takeInsertFault | putAccount | addEntry =>
      simp only [access, access.goOn, Task.unrecorded, Option.map_some, unrecorded_setPhase,
        Phase.unrecorded]
      rfl

/-- A step that notes no exchange is the same step. -/
theorem unrecorded_advance (around : Surroundings)
    (other : ∀ session, world.sessions[number]? = some session → session.phase.isNoting = false) :
    world.unrecorded.advance number around = (world.advance number around).map unrecorded := by
  unfold advance
  cases known : world.sessions[number]? with
  | none => simp [unrecorded, known]
  | some session =>
      simp only [sessions_unrecorded known, Option.bind_eq_bind, Option.bind_some]
      have same : session.unrecorded.phase = session.phase.unrecorded := rfl
      have clock : world.unrecorded.clock = world.clock := rfl
      have locks : world.unrecorded.locks = world.locks := rfl
      have faults : world.unrecorded.faults = world.faults := rfl
      have context : session.unrecorded.context = session.context := rfl
      have held : session.unrecorded.held = session.held := rfl
      rw [same, clock, locks, faults, context, held]
      cases phase : session.phase with
      | opening start task =>
          dsimp only [Phase.unrecorded]
          split
          · rfl
          · split <;> simp only [Option.map_some, unrecorded_setPhase] <;> rfl
      | running task =>
          refine unrecorded_access world number session around ?_
          rintro exchange rest rfl
          have quiet := other session known
          rw [phase] at quiet
          cases quiet
      | acquiring id lock next =>
          dsimp only [Phase.unrecorded]
          split <;> simp only [Option.map_some, unrecorded_setPhase] <;> rfl
      | waiting id lock next =>
          dsimp only [Phase.unrecorded]
          split
          · split
            · simp only [Option.map_some, unrecorded_setPhase]
              rfl
            · rfl
          · rfl
      | closing result =>
          cases result with
          | error e =>
              simp only [Phase.unrecorded, Option.map_some, unrecorded_setPhase]
          | ok value =>
              dsimp only [Phase.unrecorded]
              split <;> simp only [Option.map_some, unrecorded_setPhase] <;> rfl
      | committing value =>
          dsimp only [Phase.unrecorded]
          split <;> simp only [Option.map_some, unrecorded_setPhase] <;> rfl
      | publishing value =>
          simp only [Phase.unrecorded, Option.map_some, unrecorded_setPhase]
          rfl
      | releasing outcome =>
          dsimp only [Phase.unrecorded]
          split
          · simp only [Option.map_some, unrecorded_setPhase]
            rfl
          · rw [Option.map_some, unrecorded_releaseFirst]
      | finished outcome => rfl

/-- A run that is broken off would be so. -/
theorem unrecorded_breakOff {outcome : Outcome α}
    (other : ∀ session, world.sessions[number]? = some session → session.phase.isNoting = false) :
    world.unrecorded.breakOff number outcome = (world.breakOff number outcome).map unrecorded := by
  unfold breakOff
  cases known : world.sessions[number]? with
  | none => simp [unrecorded, known]
  | some session =>
      simp only [sessions_unrecorded known, Option.bind_eq_bind, Option.bind_some]
      have same : session.unrecorded.phase = session.phase.unrecorded := rfl
      rw [same]
      cases phase : session.phase with
      | running task =>
          cases task with
          | convert | sleep =>
              simp only [Phase.unrecorded, Task.unrecorded, Option.map_some, unrecorded_setPhase]
          | note entry next =>
              cases entry with
              | inl entry => rfl
              | inr exchange =>
                  have quiet := other session known
                  rw [phase] at quiet
                  cases quiet
          | _ => rfl
      | opening | acquiring =>
          simp only [Phase.unrecorded, Option.map_some, unrecorded_setPhase]
      | waiting =>
          simp only [Phase.unrecorded, Option.map_some, unrecorded_setPhase, unrecorded_modifyLock]
      | _ => rfl

/-- No session has an exchange still to note. -/
def Prompt (world : World (ν ⊕ Exchange) α) : Prop :=
  ∀ (number : Nat) (session : Session (ν ⊕ Exchange) α), world.sessions[number]? = some session →
    session.phase.isNoting = false

/-- Every event is the same event as long as every exchange has been noted. -/
theorem Prompt.unrecorded_after? (prompt : world.Prompt) (event : Event ν α) :
    world.unrecorded.after? event = (world.after? event.recorded).map unrecorded := by
  cases event with
  | called context work =>
      simp [World.after?, Event.recorded, World.call, unrecorded, Session.unrecorded, Phase.unrecorded,
        Work.unrecorded_task_recorded]
  | advanced number around => exact unrecorded_advance around (prompt number)
  | expired number =>
      simp only [World.after?, Event.recorded, expire]
      cases known : world.sessions[number]? with
      | none => simp [unrecorded, known]
      | some session =>
          simp only [sessions_unrecorded known, Option.bind_eq_bind, Option.bind_some]
          have same : session.unrecorded.context.isExpired world.unrecorded.clock =
              session.context.isExpired world.clock := rfl
          rw [same]
          split
          · exact unrecorded_breakOff (prompt number)
          · rfl
  | cancelled number => exact unrecorded_breakOff (prompt number)
  | ticked millis => rfl
  | armed faults => rfl

/-! ### Noting what there is to note -/

/-- To note an exchange is a step of which nothing is left. -/
private theorem noted_once (around : Surroundings) {exchange : Exchange} {rest : Task (ν ⊕ Exchange) α}
    (known : world.sessions[number]? = some session)
    (phase : session.phase = .running (.note (.inr exchange) rest)) (just : session.since = world.clock) :
    ∃ next : Session (ν ⊕ Exchange) α, next.phase = .running rest ∧ next.since = world.clock ∧
      world.advance number around = some (world.setSession number next) ∧
        (world.setSession number next).unrecorded = world.unrecorded := by
  refine ⟨{ session with
    phase := .running rest
    since := world.clock
    notes := session.notes ++ [.inr exchange] }, rfl, rfl, ?_, ?_⟩
  · simp only [advance, known, Option.bind_eq_bind, Option.bind_some, phase, access]
    rfl
  · have same : world.unrecorded.sessions.set number session.unrecorded = world.unrecorded.sessions := by
      obtain ⟨bound, at'⟩ := List.getElem?_eq_some_iff.mp (sessions_unrecorded known)
      rw [← at', List.set_getElem_self]
    have unchanged : ({ session with
        phase := .running rest
        since := world.clock
        notes := session.notes ++ [.inr exchange] } : Session (ν ⊕ Exchange) α).unrecorded =
          session.unrecorded := by
      simp [Session.unrecorded, phase, Phase.unrecorded, Task.unrecorded, just]
    simp only [setSession, unrecorded, List.map_set, unchanged, World.mk.injEq, true_and]
    exact same

/-- A session that has just had its answers can note them all, and nothing else has changed then. -/
private theorem exists_noted (around : Surroundings) (known : world.sessions[number]? = some session)
    (just : session.phase.isNoting = true → session.since = world.clock) :
    ∃ count noted next, world.run? (List.replicate count (.advanced number around)) = some noted ∧
      noted.unrecorded = world.unrecorded ∧ noted.sessions = world.sessions.set number next ∧
        next.phase.isNoting = false := by
  have settled : ∀ {world : World (ν ⊕ Exchange) α} {session : Session (ν ⊕ Exchange) α},
      world.sessions[number]? = some session → session.phase.isNoting = false →
        ∃ count noted next, world.run? (List.replicate count (.advanced number around)) = some noted ∧
          noted.unrecorded = world.unrecorded ∧ noted.sessions = world.sessions.set number next ∧
            next.phase.isNoting = false := by
    intro world session known done
    obtain ⟨bound, at'⟩ := List.getElem?_eq_some_iff.mp known
    exact ⟨0, world, session, rfl, rfl, by rw [← at', List.set_getElem_self], done⟩
  cases phase : session.phase with
  | running task =>
      induction task generalizing world session with
      | note entry rest inductionHypothesis =>
          cases entry with
          | inr exchange =>
              obtain ⟨bound, _⟩ := List.getElem?_eq_some_iff.mp known
              obtain ⟨noting, phase', just', stepped, same⟩ :=
                noted_once around known phase (just (by rw [phase]; rfl))
              have here : (world.setSession number noting).sessions[number]? = some noting :=
                List.getElem?_set_self bound
              obtain ⟨count, noted, next, ran, same', sessions, done⟩ :=
                inductionHypothesis here (fun _ => just') phase'
              refine ⟨count + 1, noted, next, ?_, same'.trans same, ?_, done⟩
              · rw [List.replicate_succ]
                exact Option.bind_eq_some_iff.mpr ⟨_, stepped, ran⟩
              · rw [sessions, setSession, List.set_set]
          | inl entry => exact settled known (by rw [phase]; rfl)
      | _ => exact settled known (by rw [phase]; rfl)
  | _ => exact settled known (by rw [phase]; rfl)

/-- To break a run off leaves nothing to note. -/
private theorem Prompt.breakOff (prompt : world.Prompt) {outcome : Outcome α}
    {after : World (ν ⊕ Exchange) α} (broken : world.breakOff number outcome = some after) :
    after.Prompt := by
  obtain ⟨⟨next, sessions, decided⟩, _⟩ := breakOff_decided broken
  intro other found there
  rcases session_after sessions there with ⟨_, rfl⟩ | ⟨_, there⟩
  · cases phase : found.phase with
    | running task =>
        rw [phase] at decided
        cases decided
    | _ => rfl
  · exact prompt other found there

/-- Whatever happens to what is left of a world happens to the world, and every exchange is noted at once. -/
theorem Prompt.exists_after? (prompt : world.Prompt) {event : Event ν α} {after : World ν α}
    (happened : world.unrecorded.after? event = some after) :
    ∃ (events : List (Event ν α)) (next : World (ν ⊕ Exchange) α),
      world.run? (events.map Event.recorded) = some next ∧ next.Prompt ∧ next.unrecorded = after := by
  rw [prompt.unrecorded_after? event] at happened
  obtain ⟨next, happened, left⟩ := Option.map_eq_some_iff.mp happened
  have alone : world.run? ([event].map Event.recorded) = some next := by
    simp [run?, happened]
  -- Only a step of a session can leave it with an exchange to note.
  cases event with
  | advanced number around =>
      obtain ⟨session, moved, known, sessions, turn⟩ := advance_turned happened
      obtain ⟨bound, _⟩ := List.getElem?_eq_some_iff.mp known
      have here : next.sessions[number]? = some moved := by
        rw [sessions, List.getElem?_set_self bound]
      have just : moved.phase.isNoting = true → moved.since = next.clock := by
        intro noting
        rw [(advance_still happened).clock]
        cases phase : moved.phase with
        | running task => exact turn.since_eq (by rw [phase]; rfl)
        | _ =>
            rw [phase] at noting
            cases noting
      obtain ⟨count, noted, last, ran, same, sessions', done⟩ := exists_noted around here just
      refine ⟨.advanced number around :: List.replicate count (.advanced number around), noted, ?_, ?_,
        same.trans left⟩
      · rw [List.map_cons, List.map_replicate]
        exact Option.bind_eq_some_iff.mpr ⟨next, happened, ran⟩
      · intro other found there
        rcases session_after sessions' there with ⟨_, rfl⟩ | ⟨different, there⟩
        · exact done
        · rw [sessions, List.getElem?_set_ne (Ne.symm different)] at there
          exact prompt other found there
  | called context work =>
      refine ⟨_, next, alone, ?_, left⟩
      cases happened
      intro other found there
      rcases session_added rfl there with there | ⟨_, rfl⟩
      · exact prompt other found there
      · rfl
  | expired number =>
      refine ⟨_, next, alone, ?_, left⟩
      obtain ⟨session, _, expired⟩ := Option.bind_eq_some_iff.mp happened
      split at expired
      · exact prompt.breakOff expired
      · cases expired
  | cancelled number => exact ⟨_, next, alone, prompt.breakOff happened, left⟩
  | ticked millis | armed faults =>
      refine ⟨_, next, alone, ?_, left⟩
      cases happened
      exact prompt

/-- Every history of works is what is left of a history of recorded works. -/
theorem exists_recorded {events : List (Event ν α)} {finish : World ν α}
    (ran : (empty : World ν α).run? events = some finish) :
    ∃ (events' : List (Event ν α)) (recorded : World (ν ⊕ Exchange) α),
      (empty : World (ν ⊕ Exchange) α).run? (events'.map Event.recorded) = some recorded ∧
        recorded.unrecorded = finish := by
  suffices prompt : ∃ (events' : List (Event ν α)) (recorded : World (ν ⊕ Exchange) α),
      (empty : World (ν ⊕ Exchange) α).run? (events'.map Event.recorded) = some recorded ∧
        recorded.Prompt ∧ recorded.unrecorded = finish by
    obtain ⟨events', recorded, ran', _, left⟩ := prompt
    exact ⟨events', recorded, ran', left⟩
  induction leads_of_run? ran with
  | start => exact ⟨[], empty, rfl, by simp [Prompt, empty], rfl⟩
  | snoc before happened inductionHypothesis =>
      obtain ⟨events', recorded, ran', prompt, left⟩ := inductionHypothesis (run?_eq before)
      subst left
      obtain ⟨more, next, ran'', prompt', left'⟩ := prompt.exists_after? happened
      refine ⟨events' ++ more, next, ?_, prompt', left'⟩
      rw [List.map_append, run?_append, ran', Option.bind_some, ran'']

end World

end Passbook.Session

import Passbook.Proofs.Service.Performance
import Passbook.Proofs.Service.Publication
/-!
# What a call changes

The changes that the session of a call makes to the committed tables.  If the operation succeeds there is one
of them, made in one step and as the operation yields it; if it does not there is none, whatever it has staged.
What the sessions of others change meanwhile does not count.
-/

namespace Passbook.Service

open Session (World Outcome Simulation)
open Store (Tables)

/-- Committed tables before and after they are changed, if they are. -/
def change (before after : Tables) : List (Tables × Tables) :=
  if before = after then [] else [(before, after)]

@[simp] theorem change_self (tables : Tables) : change tables tables = [] := if_pos rfl

/-- No session but one goes on. -/
def Undisturbed (number : Nat) (events : List Event) : Prop :=
  ∀ event ∈ events, ∀ other, event.session? = some other → other = number

theorem Undisturbed.nil (number : Nat) : Undisturbed number [] := by
  intro event member
  cases member

namespace Chronicle

variable {chronicle after finish : Chronicle} {number : Nat} {event : Event} {events : List Event}

/-- The changes that a session makes to the committed tables, one after the other. -/
def changes (number : Nat) : Chronicle → List Event → List (Tables × Tables)
  | _, [] => []
  | chronicle, event :: events =>
    match chronicle.after? event with
    | some after =>
      (if event.session? = some number then change chronicle.world.tables after.world.tables else []) ++
        changes number after events
    | none => []

theorem changes_cons (happened : chronicle.after? event = some after) (number : Nat) (events : List Event) :
    chronicle.changes number (event :: events) =
      (if event.session? = some number then change chronicle.world.tables after.world.tables else []) ++
        after.changes number events := by
  rw [changes, happened]

/-- An event by which the tables stay the same is no change. -/
theorem changes_of_same (happened : chronicle.after? event = some after)
    (same : after.world.tables = chronicle.world.tables) (number : Nat) (events : List Event) :
    chronicle.changes number (event :: events) = after.changes number events := by
  rw [changes_cons happened, same, change_self, ite_self, List.nil_append]

/-- Nor is an event that is about another session. -/
theorem changes_of_other (happened : chronicle.after? event = some after)
    (other : event.session? ≠ some number) (events : List Event) :
    chronicle.changes number (event :: events) = after.changes number events := by
  rw [changes_cons happened, if_neg other, List.nil_append]

private theorem run?_cons (ran : chronicle.run? (event :: events) = some finish) :
    ∃ after, chronicle.after? event = some after ∧ after.run? events = some finish :=
  Option.bind_eq_some_iff.mp ran

/-! ### An operation whose outcome is decided -/

/-- The outcome of the operation of a session is decided. -/
def Decided (chronicle : Chronicle) (number : Nat) : Prop :=
  ∃ session outcome, chronicle.world.sessions[number]? = some session ∧
    session.phase.outcome = some outcome

theorem Completed.decided {answer : Answer} (completed : chronicle.Completed number answer) :
    chronicle.Decided number :=
  completed.imp fun _ ⟨known, decided⟩ => ⟨_, known, decided⟩

theorem Decided.after? (decided : chronicle.Decided number) (happened : chronicle.after? event = some after) :
    after.Decided number := by
  obtain ⟨session, outcome, known, decided⟩ := decided
  cases after?_proceeds happened with
  | called context operation _ eq =>
      subst eq
      obtain ⟨_, sessions, _⟩ := chronicle.call_adds context operation
      exact ⟨session, outcome, World.session_kept sessions known, decided⟩
  | aside _ sessions => exact ⟨session, outcome, sessions ▸ known, decided⟩
  | @turned mover next _ other _ moverKnown sessions turn =>
      by_cases mine : other = number
      · subst mine
        rw [known] at moverKnown
        cases moverKnown
        obtain ⟨_, _, decided', _⟩ := turn.of_decided decided
        obtain ⟨bound, _⟩ := List.getElem?_eq_some_iff.mp known
        exact ⟨next, outcome, by rw [sessions, List.getElem?_set_self bound], decided'⟩
      · exact ⟨session, outcome, by rw [sessions, List.getElem?_set_ne mine, known], decided⟩

/-- It changes nothing any more. -/
theorem Regular.changes_of_decided (regular : chronicle.Regular) (decided : chronicle.Decided number)
    (ran : chronicle.run? events = some finish) : chronicle.changes number events = [] := by
  induction events generalizing chronicle with
  | nil => rfl
  | cons event events inductionHypothesis =>
      obtain ⟨after, happened, ran⟩ := run?_cons ran
      have quiet := inductionHypothesis (regular.after? happened) (decided.after? happened) ran
      cases regular.publishes happened with
      | nothing same => rw [changes_of_same happened same, quiet]
      | @operation other _ _ _ _ concerns _ _ undecided =>
          have notMine : event.session? ≠ some number := by
            rw [concerns]
            rintro ⟨rfl⟩
            obtain ⟨session, outcome, known, decided⟩ := decided
            rw [undecided session known] at decided
            cases decided
          rw [changes_of_other happened notMine, quiet]

/-- An operation that has succeeded has succeeded for good. -/
theorem Regular.completed_run? (regular : chronicle.Regular) (ran : chronicle.run? events = some finish)
    {answer : Answer} (completed : chronicle.Completed number answer) : finish.Completed number answer :=
  ((Leads.of_foldlM ran).invariant
    (motive := fun later => later.Regular ∧ later.Completed number answer) ⟨regular, completed⟩
    fun ⟨regular, completed⟩ happened =>
      ⟨regular.after? happened, regular.completed_after? happened completed⟩).2

/-! ### All changes of an operation -/

/-- What a session has changed until some time, of which its operation was called before and has not
succeeded so far: nothing, and it has not succeeded, or what the operation yields in one step, and it has. -/
inductive HasChanged (chronicle : Chronicle) (number : Nat) (user : UserId) (operation : Operation)
    (finish : Chronicle) (changes : List (Tables × Tables)) : Prop where
  | nothing (incomplete : ∀ answer, ¬finish.Completed number answer) (none : changes = [])
  | once {answer : Answer} {before staged : Tables} (completed : finish.Completed number answer)
      (distinct : before.DistinctRows)
      (yields : operation.Yields anyTables anyId chronicle.defaultCurrency user before (.ok answer) staged)
      (one : changes = change before (before.extend staged))

theorem Regular.hasChanged (regular : chronicle.Regular) (distinct : chronicle.world.tables.DistinctRows)
    {user : UserId} {operation : Operation} (called : chronicle.calls[number]? = some (user, operation))
    (incomplete : ∀ answer, ¬chronicle.Completed number answer)
    (ran : chronicle.run? events = some finish) :
    chronicle.HasChanged number user operation finish (chronicle.changes number events) := by
  induction events generalizing chronicle with
  | nil =>
      cases ran
      exact .nothing incomplete rfl
  | cons event events inductionHypothesis =>
      obtain ⟨after, happened, ran⟩ := run?_cons ran
      have regular' := regular.after? happened
      have distinct' := lasting_distinctRows regular happened distinct
      have later : (∀ answer, ¬after.Completed number answer) →
          chronicle.HasChanged number user operation finish (after.changes number events) := by
        intro incomplete'
        cases inductionHypothesis regular' distinct' (called_after? happened called) incomplete' ran with
        | nothing incomplete none => exact .nothing incomplete none
        | once completed distinct yields one =>
            exact .once completed distinct (defaultCurrency_eq happened ▸ yields) one
      cases regular.publishes happened with
      | nothing same completed =>
          rw [changes_of_same happened same]
          exact later fun answer done => incomplete answer ((completed number answer).mp done)
      | @operation other _ _ answer staged concerns called' _ _ yields tables completed =>
          by_cases mine : other = number
          · subst mine
            rw [called] at called'
            cases called'
            have done : after.Completed other answer := (completed other answer).mpr (.inl ⟨rfl, rfl⟩)
            refine .once (regular'.completed_run? ran done) distinct yields ?_
            rw [changes_cons happened, if_pos concerns, regular'.changes_of_decided done.decided ran,
              List.append_nil, tables]
          · have notMine : event.session? ≠ some number := by
              rw [concerns]
              rintro ⟨rfl⟩
              exact mine rfl
            rw [changes_of_other happened notMine]
            refine later fun answer' done => ?_
            rcases (completed number answer').mp done with ⟨rfl, _⟩ | before
            · exact mine rfl
            · exact incomplete answer' before

/-- What an operation changes if it is called now. -/
theorem Regular.hasChanged_call (regular : chronicle.Regular)
    (distinct : chronicle.world.tables.DistinctRows) {context : RequestContext} {operation : Operation}
    (ran : (chronicle.call context operation).run? events = some finish) :
    chronicle.HasChanged chronicle.calls.length context.user operation finish
      (chronicle.changes chronicle.calls.length (.called context operation :: events)) := by
  have happened : chronicle.after? (.called context operation) = some (chronicle.call context operation) :=
    rfl
  obtain ⟨new, sessions, _, unfinished, tables⟩ := chronicle.call_adds context operation
  have called : (chronicle.call context operation).calls[chronicle.calls.length]? =
      some (context.user, operation) := by
    simp [call]
  have incomplete : ∀ answer, ¬(chronicle.call context operation).Completed chronicle.calls.length answer := by
    rintro answer ⟨session, known, decided⟩
    rw [sessions, ← regular.length, List.getElem?_concat_length] at known
    cases known
    exact unfinished answer decided
  rw [changes_of_same happened tables]
  cases (regular.after? happened).hasChanged (tables ▸ distinct) called incomplete ran with
  | nothing incomplete none => exact .nothing incomplete none
  | once completed distinct yields one =>
      exact .once completed distinct (defaultCurrency_eq happened ▸ yields) one

/-- As long as no other session goes on, the tables are changed by the changes of the session alone. -/
theorem tables_of_changes (undisturbed : Undisturbed number events)
    (ran : chronicle.run? events = some finish) :
    (chronicle.changes number events = [] → finish.world.tables = chronicle.world.tables) ∧
      ∀ before after, chronicle.changes number events = [(before, after)] →
        before = chronicle.world.tables ∧ after = finish.world.tables := by
  induction events generalizing chronicle with
  | nil =>
      cases ran
      exact ⟨fun _ => rfl, nofun⟩
  | cons event events inductionHypothesis =>
      obtain ⟨next, happened, ran⟩ := run?_cons ran
      obtain ⟨none, one⟩ := inductionHypothesis
        (fun event' member => undisturbed event' (List.mem_cons_of_mem _ member)) ran
      by_cases same : next.world.tables = chronicle.world.tables
      · rw [changes_of_same happened same, ← same]
        exact ⟨none, one⟩
      · have concerns : event.session? = some number := by
          cases after?_proceeds happened with
          | called context operation _ eq =>
              subst eq
              obtain ⟨_, _, _, _, tables⟩ := chronicle.call_adds context operation
              exact absurd tables same
          | turned other concerns =>
              rw [concerns, undisturbed event List.mem_cons_self other concerns]
          | aside _ _ tables => exact absurd tables same
        rw [changes_cons happened, if_pos concerns, change, if_neg (Ne.symm same), List.singleton_append]
        refine ⟨nofun, fun before after only => ?_⟩
        obtain ⟨first, rest⟩ := List.cons_eq_cons.mp only
        cases first
        exact ⟨rfl, (none rest).symm⟩

/-- Steps of a session of the store are recorded as steps of its chronicle, which no other session goes on
by. -/
theorem exists_run? {steps : List (Session.Event Empty Answer)} {last : World Empty Answer}
    (advances : ∀ step ∈ steps, ∃ around, step = .advanced number around)
    (ran : chronicle.world.run? steps = some last) :
    ∃ events finish, chronicle.run? events = some finish ∧ finish.world = last ∧
      Undisturbed number events := by
  obtain ⟨arounds, rfl⟩ : ∃ arounds : List Session.Surroundings, steps = arounds.map (.advanced number) := by
    clear ran
    induction steps with
    | nil => exact ⟨[], rfl⟩
    | cons step steps inductionHypothesis =>
        obtain ⟨around, rfl⟩ := advances step List.mem_cons_self
        obtain ⟨arounds, rfl⟩ := inductionHypothesis fun step member =>
          advances step (List.mem_cons_of_mem _ member)
        exact ⟨around :: arounds, rfl⟩
  obtain ⟨finish, ran, reached⟩ := run?_advanced ran
  refine ⟨_, finish, ran, reached, ?_⟩
  intro event member other concerns
  obtain ⟨around, _, rfl⟩ := List.mem_map.mp member
  exact (Option.some.inj concerns).symm

end Chronicle

/-! ### A ledger of its own -/

namespace Ledger

variable {ledger : Ledger}

/-- The chronicle of a ledger that begins now. -/
def chronicle (ledger : Ledger) : Chronicle := ⟨ledger.defaultCurrency, ledger.store.world, [], []⟩

theorem regular_of_vacant (vacant : ledger.store.Vacant) : ledger.chronicle.Regular where
  order := vacant.order
  length := congrArg List.length vacant.idle
  refused := by
    intro number user operation e called
    cases called
  assures := by
    intro number user operation called
    cases called

/-- A call that is made at once on a vacant store is recorded by its chronicle: the session of the call goes on
by itself, faults that are armed hit it, and it comes to an end. -/
structure PerformsAlone (ledger : Ledger) (call : Call) (context : RequestContext) (events : List Event)
    (finish : Chronicle) (outcome : Outcome Answer) (after : Ledger) : Prop where
  user : context.user = call.user
  performs : ledger.perform call = (some outcome, after)
  ran : (ledger.chronicle.call context call.operation).run? events = some finish
  undisturbed : Undisturbed 0 events
  ended : ∃ session, finish.world.sessions[0]? = some session ∧ session.phase = .finished outcome
  tables : after.store.world.tables = finish.world.tables
  vacant : after.store.Vacant

theorem exists_performsAlone (vacant : ledger.store.Vacant) {call : Call} (atOnce : call.delay = 0) :
    ∃ context events finish outcome after, ledger.PerformsAlone call context events finish outcome after := by
  cases checked : call.operation.check with
  | error e =>
      refine ⟨.ofUser call.user, [], _, .failed e, ledger, rfl, perform_of_refused vacant.idle checked, rfl,
        .nil 0, ⟨Chronicle.refused (.ofUser call.user) ledger.store.world.clock e, ?_, rfl⟩, ?_, vacant⟩
      · simp [Chronicle.call, chronicle, checked, vacant.idle]
      · simp [Chronicle.call, chronicle, checked]
  | ok _ =>
      obtain ⟨context, steps, last, session, runs⟩ :=
        vacant.exists_runsAlone (show (ledger.callOf call).delay = 0 from atOnce) (ledger.callOf_brief call)
      have user : context.user = call.user := runs.user
      obtain ⟨session', sessions, outcome, ended⟩ := runs.goesOn.isOver
      rw [runs.sessions] at sessions
      cases sessions
      have world : (ledger.chronicle.call context call.operation).world =
          ledger.store.world.call context ledger.store.world.clock (ledger.callOf call).work := by
        simp only [Chronicle.call, chronicle, checked, callOf, user]
      have ran := runs.goesOn.ran
      rw [← world] at ran
      obtain ⟨events, finish, ran', reached, undisturbed⟩ := Chronicle.exists_run?
        (fun step member => (runs.goesOn.steps step member).imp fun _ => And.left) ran
      refine ⟨context, events, finish, outcome,
        { ledger with store := { last with world := { last.world with sessions := [] } } }, user, ?_, ran',
        undisturbed, ⟨session, ?_, ended⟩, ?_, vacant.after runs.goesOn⟩
      · rw [perform_of_checked checked runs.ran]
        simp only [Simulation.reportOf, ended]
      · rw [reached, runs.sessions]
        rfl
      · rw [reached]

end Ledger

end Passbook.Service

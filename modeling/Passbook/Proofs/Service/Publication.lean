import Passbook.Proofs.Service.Chronicle
import Passbook.Proofs.Service.Yields
import Passbook.Proofs.Session.Lifecycle
/-!
# Publication

What an event does to the committed tables while operations run side by side: nothing, or one operation
completes, and what it yields is published in one step.  Since what an operation yields is said of the tables
that are committed right then, what holds of the tables at all times can be shown one publication at a time.
No use is made of fresh identifiers being distinct.
-/

namespace Passbook.Service

open Session (World Outcome Surroundings Turn)
open Store (Tables)

def Event.session? : Event → Option Nat
  | .advanced number _ | .expired number | .cancelled number => some number
  | .called _ _ | .ticked _ | .armed _ => none

def anyId (_ : Uuid) : Prop := True

def anyTables (_ : Tables) : Prop := True

namespace Chronicle

variable {chronicle after : Chronicle} {event : Event} {number : Nat}

/-! ### Events -/

/-- What an event does to a chronicle: it is a call, or it is a turn of the session that it is about, or it
leaves sessions and tables as they are. -/
inductive Proceeds (chronicle : Chronicle) (event : Event) (after : Chronicle) : Prop where
  | called (context : RequestContext) (operation : Operation) (eq : event = .called context operation)
      (after_eq : after = chronicle.call context operation)
  | turned {session next : Session.Session Empty Answer} {learned : List Session.Reading} (number : Nat)
      (concerns : event.session? = some number)
      (known : chronicle.world.sessions[number]? = some session)
      (sessions : after.world.sessions = chronicle.world.sessions.set number next)
      (turn : Turn chronicle.world.tables chronicle.world.clock session learned next after.world.tables)
      (calls : after.calls = chronicle.calls) (currency : after.defaultCurrency = chronicle.defaultCurrency)
  | aside (concerns : event.session? = none) (sessions : after.world.sessions = chronicle.world.sessions)
      (tables : after.world.tables = chronicle.world.tables) (calls : after.calls = chronicle.calls)
      (currency : after.defaultCurrency = chronicle.defaultCurrency)

private theorem proceeds_of_turned {event' : Session.Event Empty Answer} {learned : List Session.Reading}
    (concerns : event.session? = some number) (follows : chronicle.Follows event' after)
    (turned : chronicle.world.Turned number learned after.world) : chronicle.Proceeds event after := by
  obtain ⟨session, next, known, sessions, turn⟩ := turned
  exact .turned number concerns known sessions turn follows.calls follows.currency

/-- Every event does one of these things. -/
theorem after?_proceeds (happened : chronicle.after? event = some after) :
    chronicle.Proceeds event after := by
  cases event with
  | called context operation =>
      cases happened
      exact .called context operation rfl rfl
  | advanced number around =>
      have follows := follows_of_follow rfl happened
      exact proceeds_of_turned rfl follows (World.advance_turned follows.world)
  | expired number =>
      have follows := follows_of_follow rfl happened
      exact proceeds_of_turned rfl follows (World.expire_turned follows.world)
  | cancelled number =>
      have follows := follows_of_follow rfl happened
      exact proceeds_of_turned rfl follows (World.cancel_turned follows.world)
  | ticked | armed =>
      cases happened
      exact .aside rfl rfl rfl rfl rfl

/-- A call adds a session and changes nothing else. -/
theorem call_adds (chronicle : Chronicle) (context : RequestContext) (operation : Operation) :
    ∃ session, (chronicle.call context operation).world.sessions = chronicle.world.sessions ++ [session] ∧
      session.context = context ∧ (∀ answer, session.phase.outcome ≠ some (.completed answer)) ∧
        (chronicle.call context operation).world.tables = chronicle.world.tables := by
  unfold call
  dsimp only
  split
  · refine ⟨_, rfl, rfl, ?_, rfl⟩
    intro answer decided
    cases decided
  · refine ⟨_, rfl, rfl, ?_, rfl⟩
    intro answer decided
    cases decided

/-- Who has called what is kept. -/
theorem calls_grow (happened : chronicle.after? event = some after) :
    chronicle.calls <+: after.calls := by
  cases after?_proceeds happened with
  | called context operation _ eq =>
      subst eq
      exact List.prefix_append _ _
  | turned _ _ _ _ _ calls | aside _ _ _ calls => exact calls ▸ List.prefix_refl _

theorem called_after? (happened : chronicle.after? event = some after) {call : UserId × Operation}
    (called : chronicle.calls[number]? = some call) : after.calls[number]? = some call := by
  obtain ⟨more, calls⟩ := calls_grow happened
  obtain ⟨bound, _⟩ := List.getElem?_eq_some_iff.mp called
  rw [← calls, List.getElem?_append_left bound, called]

theorem defaultCurrency_eq (happened : chronicle.after? event = some after) :
    after.defaultCurrency = chronicle.defaultCurrency := by
  cases after?_proceeds happened with
  | called context operation _ eq => rw [eq, call]
  | turned _ _ _ _ _ _ currency | aside _ _ _ _ currency => exact currency

theorem run?_append (chronicle : Chronicle) (events later : List Event) :
    chronicle.run? (events ++ later) = (chronicle.run? events).bind (·.run? later) :=
  Leads.foldlM_append events later

/-- Steps of a session are recorded as steps of its chronicle. -/
theorem run?_advanced {arounds : List Surroundings} {last : World Empty Answer}
    (ran : chronicle.world.run? (arounds.map (.advanced number)) = some last) :
    ∃ finish, chronicle.run? (arounds.map (.advanced number)) = some finish ∧ finish.world = last := by
  induction arounds generalizing chronicle with
  | nil =>
      cases ran
      exact ⟨chronicle, rfl, rfl⟩
  | cons around arounds inductionHypothesis =>
      obtain ⟨world, moved, ran⟩ := Option.bind_eq_some_iff.mp ran
      obtain ⟨next, happened, rfl⟩ : ∃ next, chronicle.after? (.advanced number around) = some next ∧
          next.world = world :=
        ⟨_, by rw [after?, follow, moved, Option.map_some], rfl⟩
      obtain ⟨finish, ran', reached⟩ := inductionHypothesis ran
      exact ⟨finish, Option.bind_eq_some_iff.mpr ⟨next, happened, ran'⟩, reached⟩

/-! ### Assured operations -/

/-- The session of a call that has passed its check is assured of what its operation yields, given what holds
of the committed tables at all times and what held of all tables that it has seen. -/
def Assures (chronicle : Chronicle) (base seen : Tables → Prop) (number : Nat) : Prop :=
  ∀ user operation, chronicle.calls[number]? = some (user, operation) → operation.check = .ok () →
    chronicle.world.Assures anyId base (fun result committed staged =>
      operation.Yields seen anyId chronicle.defaultCurrency user committed result staged) number

/-- A chronicle that has come about from its beginning: the locks and what is staged are in order, every
session has its call, and every call that has passed its check is assured of what its operation yields. -/
structure Regular (chronicle : Chronicle) : Prop where
  order : chronicle.world.InOrder
  length : chronicle.world.sessions.length = chronicle.calls.length
  refused : ∀ {number : Nat} {user : UserId} {operation : Operation} {e : LedgerError},
    chronicle.calls[number]? = some (user, operation) → operation.check = .error e →
      ∃ session, chronicle.world.sessions[number]? = some session ∧ session.phase = .finished (.failed e)
  assures : ∀ number, chronicle.Assures anyTables anyTables number

namespace Regular

theorem start (defaultCurrency : Currency) (tables : Tables) :
    (Chronicle.start defaultCurrency tables).Regular where
  order := .of_none rfl rfl rfl
  length := rfl
  refused := by
    intro number user operation e called
    cases called
  assures := by
    intro number user operation called
    cases called

/-- A session that is still at work, or that has succeeded, has passed its check. -/
theorem check_eq_ok (regular : chronicle.Regular) {user : UserId} {operation : Operation}
    {session : Session.Session Empty Answer} (called : chronicle.calls[number]? = some (user, operation))
    (known : chronicle.world.sessions[number]? = some session)
    (open' : ∀ e, session.phase ≠ .finished (.failed e)) : operation.check = .ok () := by
  cases checked : operation.check with
  | ok _ => rfl
  | error e =>
      obtain ⟨session', known', ended⟩ := regular.refused called checked
      rw [known] at known'
      cases known'
      exact absurd ended (open' e)

/-- Every session has its call. -/
theorem exists_call (regular : chronicle.Regular) {session : Session.Session Empty Answer}
    (known : chronicle.world.sessions[number]? = some session) :
    ∃ user operation, chronicle.calls[number]? = some (user, operation) := by
  obtain ⟨bound, _⟩ := List.getElem?_eq_some_iff.mp known
  rw [regular.length] at bound
  exact ⟨_, _, List.getElem?_eq_getElem bound⟩

end Regular

section Assures

variable {base seen : Tables → Prop}

/-- Every event leaves the call of an operation assured, as long as the tables are what they are at all
times. -/
theorem Assures.after? (assures : chronicle.Assures base seen number) (order : chronicle.world.InOrder)
    (bound : number < chronicle.calls.length) (based : base chronicle.world.tables)
    (based' : base after.world.tables) (happened : chronicle.after? event = some after) :
    after.Assures base seen number := by
  intro user operation called checked
  rw [defaultCurrency_eq happened]
  rcases after?_cases happened with ⟨context, operation', _, rfl⟩ | ⟨event', follows⟩
  · rw [call, List.getElem?_append_left bound] at called
    obtain ⟨session, known, assured⟩ := assures user operation called checked
    obtain ⟨new, sessions, _, _, tables⟩ := chronicle.call_adds context operation'
    refine ⟨session, World.session_kept sessions known, ?_⟩
    rw [tables]
    exact assured
  · rw [follows.calls] at called
    exact (assures user operation called checked).after? order based based' (fun _ _ => trivial)
      follows.world

/-- A new call is assured of what its operation yields. -/
theorem Assures.call (length : chronicle.world.sessions.length = chronicle.calls.length)
    (based : base chronicle.world.tables) (known : ∀ tables, base tables → seen tables)
    (context : RequestContext) (operation : Operation) :
    (chronicle.call context operation).Assures base seen chronicle.calls.length := by
  intro user operation' called checked
  simp only [Chronicle.call, List.getElem?_concat_length, Option.some.injEq, Prod.mk.injEq] at called
  obtain ⟨rfl, rfl⟩ := called
  have assures : Session.Work.Assures anyId _ _ base .empty :=
    operation.work_assures chronicle.defaultCurrency context.user known
  refine ⟨_, ?_, .opening assures ?_ context chronicle.world.clock chronicle.world.clock⟩
  · simp only [Chronicle.call, checked, World.call, ← length, List.getElem?_concat_length]
  · simpa only [Chronicle.call, checked, World.call] using based

/-- What is said of an outcome in which an operation was broken off, or which is as its result should be. -/
theorem Assures.outcome_meets (assures : chronicle.Assures base seen number) {user : UserId}
    {operation : Operation} (called : chronicle.calls[number]? = some (user, operation))
    (checked : operation.check = .ok ()) {session : Session.Session Empty Answer}
    (known : chronicle.world.sessions[number]? = some session) {outcome : Outcome Answer}
    (decided : session.phase.outcome = some outcome) :
    outcome.Meets fun result => ∃ committed staged, base committed ∧
      operation.Yields seen anyId chronicle.defaultCurrency user committed result staged := by
  obtain ⟨session', known', assured⟩ := assures user operation called checked
  rw [known] at known'
  cases known'
  exact assured.decided outcome decided

/-- An operation that has answered has answered what it yields. -/
theorem Assures.answers (assures : chronicle.Assures base seen number) {user : UserId}
    {operation : Operation} (called : chronicle.calls[number]? = some (user, operation))
    (checked : operation.check = .ok ()) {outcome : Outcome Answer}
    (answers : chronicle.Answers number outcome) :
    ∃ result committed staged, outcome = .ofResult result ∧ base committed ∧
      operation.Yields seen anyId chronicle.defaultCurrency user committed result staged := by
  obtain ⟨session, known, decided, answer⟩ := answers
  cases assures.outcome_meets called checked known decided with
  | completed meets | failed meets =>
      obtain ⟨committed, staged, based, yields⟩ := meets
      exact ⟨_, committed, staged, rfl, based, yields⟩
  | brokenOff off =>
      rcases off with rfl | rfl | ⟨place, rfl⟩
      · exact absurd answer id
      · exact absurd rfl answer.1
      · exact absurd rfl (answer.2 place)

end Assures

/-- Every event leaves a chronicle regular. -/
theorem Regular.after? (regular : chronicle.Regular) (happened : chronicle.after? event = some after) :
    after.Regular := by
  have old : ∀ number < chronicle.calls.length, after.Assures anyTables anyTables number :=
    fun number bound => (regular.assures number).after? regular.order bound trivial trivial happened
  rcases after?_cases happened with ⟨context, operation, _, rfl⟩ | ⟨event', follows⟩
  · obtain ⟨new, sessions, _, _, tables⟩ := chronicle.call_adds context operation
    have calls : (chronicle.call context operation).calls =
        chronicle.calls ++ [(context.user, operation)] := rfl
    refine ⟨?_, ?_, ?_, ?_⟩
    · unfold call
      dsimp only
      split
      · exact regular.order.call context _ _
      · exact regular.order.add rfl rfl rfl rfl rfl rfl (fun _ _ => Session.Phase.not_seeks rfl rfl)
          (.of_decided .empty rfl)
    · rw [sessions, calls, List.length_append, List.length_append, regular.length]
      rfl
    · intro number user operation' e called checked
      rw [calls, List.getElem?_append] at called
      split at called
      · obtain ⟨session, known, ended⟩ := regular.refused called checked
        exact ⟨session, World.session_kept sessions known, ended⟩
      · rename_i outside
        rw [List.getElem?_singleton] at called
        split at called
        · cases called
          refine ⟨Chronicle.refused context chronicle.world.clock e, ?_, rfl⟩
          have same : number = chronicle.world.sessions.length := by
            rw [regular.length]
            omega
          simp only [call, checked, same, List.getElem?_concat_length]
        · cases called
    · intro number user operation' called checked
      have bound := (List.getElem?_eq_some_iff.mp called).1
      rw [calls, List.length_append, List.length_singleton] at bound
      rcases Nat.lt_succ_iff_lt_or_eq.mp bound with before | rfl
      · exact old number before user operation' called checked
      · exact Assures.call regular.length trivial (fun _ _ => trivial) context operation user operation'
          called checked
  · refine ⟨regular.order.after? follows.world, ?_, ?_, ?_⟩
    · rw [follows.calls, ← regular.length]
      cases after?_proceeds happened with
      | called context operation eq =>
          subst eq
          cases happened
          simpa [call] using follows.calls
      | turned _ _ _ sessions => rw [sessions, List.length_set]
      | aside _ sessions => rw [sessions]
    · intro number user operation e called checked
      rw [follows.calls] at called
      obtain ⟨session, known, ended⟩ := regular.refused called checked
      exact ⟨session, World.after?_of_isOver known ⟨_, ended⟩ follows.world, ended⟩
    · intro number user operation called
      have bound := (List.getElem?_eq_some_iff.mp called).1
      rw [follows.calls] at bound
      exact old number bound user operation called

/-- So does every history of events. -/
theorem Regular.run? (regular : chronicle.Regular) {events : List Event}
    (ran : chronicle.run? events = some after) : after.Regular :=
  (Leads.of_foldlM ran).invariant (motive := Regular) regular fun before happened =>
    before.after? happened

/-- Every event lets the committed tables go on. -/
theorem Regular.evolves (regular : chronicle.Regular) (happened : chronicle.after? event = some after) :
    chronicle.world.tables.Evolves after.world.tables := by
  rcases after?_cases happened with ⟨context, operation, _, rfl⟩ | ⟨event', follows⟩
  · obtain ⟨_, _, _, _, tables⟩ := chronicle.call_adds context operation
    exact tables ▸ .refl _
  · exact (regular.order.evolves follows.world).1

/-- What holds of committed tables stays so whatever happens. -/
def Lasting (base : Tables → Prop) : Prop :=
  ∀ {chronicle after : Chronicle} {event : Event}, chronicle.Regular →
    chronicle.after? event = some after → base chronicle.world.tables → base after.world.tables

/-- Tables are those that are committed at some time in the course of a history of events. -/
def Passes (chronicle : Chronicle) (events : List Event) (tables : Tables) : Prop :=
  ∃ earlier later moment, events = earlier ++ later ∧ chronicle.run? earlier = some moment ∧
    moment.world.tables = tables

theorem Passes.first (chronicle : Chronicle) (events : List Event) :
    chronicle.Passes events chronicle.world.tables :=
  ⟨[], events, chronicle, rfl, rfl, rfl⟩

theorem Passes.cons (happened : chronicle.after? event = some after) {events : List Event} {tables : Tables}
    (passes : after.Passes events tables) : chronicle.Passes (event :: events) tables := by
  obtain ⟨earlier, later, moment, rfl, reached, same⟩ := passes
  exact ⟨event :: earlier, later, moment, rfl, Option.bind_eq_some_iff.mpr ⟨after, happened, reached⟩, same⟩

/-- What holds of the tables at all times of a history can be relied on by all operations that are called in
its course. -/
theorem Regular.assures_of_passes (regular : chronicle.Regular) {base : Tables → Prop} {events : List Event}
    (based : ∀ tables, chronicle.Passes events tables → base tables)
    (ran : chronicle.run? events = some after) {first : Nat}
    (assures : ∀ number, first ≤ number → chronicle.Assures base base number) :
    ∀ number, first ≤ number → after.Assures base base number := by
  induction events generalizing chronicle with
  | nil =>
      cases ran
      exact assures
  | cons event events inductionHypothesis =>
      obtain ⟨next, happened, ran⟩ := Option.bind_eq_some_iff.mp ran
      have now := based _ (.first chronicle _)
      have afterwards := based _ (.cons happened (.first next events))
      refine inductionHypothesis (regular.after? happened)
        (fun tables passes => based tables (.cons happened passes)) ran fun number late => ?_
      by_cases old : number < chronicle.calls.length
      · exact (assures number late).after? regular.order old now afterwards happened
      · intro user operation called checked
        have bound := (List.getElem?_eq_some_iff.mp called).1
        rcases after?_cases happened with ⟨context, operation', _, rfl⟩ | ⟨event', follows⟩
        · have same : number = chronicle.calls.length := by
            rw [call, List.length_append, List.length_singleton] at bound
            omega
          subst same
          exact Assures.call regular.length now (fun _ based => based) context operation' user operation
            called checked
        · rw [follows.calls] at bound
          exact absurd bound old

/-- No operation has been called yet with a number that is yet to come. -/
theorem assures_of_uncalled (chronicle : Chronicle) (base seen : Tables → Prop)
    (late : chronicle.calls.length ≤ number) : chronicle.Assures base seen number := by
  intro user operation called
  exact absurd (List.getElem?_eq_some_iff.mp called).1 (Nat.not_lt.mpr late)

/-- What lasts holds at all times from when it holds. -/
theorem Lasting.of_passes {base : Tables → Prop} (lasting : Lasting base) (regular : chronicle.Regular)
    (based : base chronicle.world.tables) {events : List Event} {tables : Tables}
    (passes : chronicle.Passes events tables) : base tables := by
  obtain ⟨earlier, _, moment, _, reached, rfl⟩ := passes
  have both := (Leads.of_foldlM reached).invariant
    (motive := fun later => later.Regular ∧ base later.world.tables) ⟨regular, based⟩
    fun ⟨regular, based⟩ happened => ⟨regular.after? happened, lasting regular happened based⟩
  exact both.2

/-- Committed tables go on as those that are committed at any later time. -/
theorem Regular.evolves_of_passes (regular : chronicle.Regular) {events : List Event} {tables : Tables}
    (passes : chronicle.Passes events tables) : chronicle.world.tables.Evolves tables := by
  have lasting : Lasting (chronicle.world.tables.Evolves ·) :=
    fun regular happened before => before.trans (regular.evolves happened)
  exact lasting.of_passes regular (.refl _) passes

/-- What holds from some time on and lasts can be relied on by all operations that are called then. -/
theorem Regular.assures_run? (regular : chronicle.Regular) {base : Tables → Prop} (lasting : Lasting base)
    (based : base chronicle.world.tables) {events : List Event}
    (ran : chronicle.run? events = some after) :
    base after.world.tables ∧ ∀ number, chronicle.calls.length ≤ number → after.Assures base base number :=
  ⟨lasting.of_passes regular based ⟨events, [], after, (List.append_nil _).symm, ran, rfl⟩,
    regular.assures_of_passes (fun _ passes => lasting.of_passes regular based passes) ran
      fun _ late => chronicle.assures_of_uncalled base base late⟩

/-! ### What is published -/

/-- The operation of a session has succeeded, and this is its answer. -/
def Completed (chronicle : Chronicle) (number : Nat) (answer : Answer) : Prop :=
  ∃ session, chronicle.world.sessions[number]? = some session ∧
    session.phase.outcome = some (.completed answer)

/-- What an event does to the committed tables: nothing, and no operation completes; or the operation of the
session that it is about completes, and what it has staged is published. -/
inductive Publishes (chronicle : Chronicle) (event : Event) (after : Chronicle) : Prop where
  | nothing (tables : after.world.tables = chronicle.world.tables)
      (completed : ∀ number answer, after.Completed number answer ↔ chronicle.Completed number answer)
  | operation {number : Nat} {user : UserId} {operation : Operation} {answer : Answer} {staged : Tables}
      (concerns : event.session? = some number)
      (called : chronicle.calls[number]? = some (user, operation)) (checked : operation.check = .ok ())
      (undecided : ∀ session, chronicle.world.sessions[number]? = some session →
        session.phase.outcome = none)
      (yields : operation.Yields anyTables anyId chronicle.defaultCurrency user chronicle.world.tables
        (.ok answer) staged)
      (tables : after.world.tables = chronicle.world.tables.extend staged)
      (completed : ∀ other answer', after.Completed other answer' ↔
        other = number ∧ answer' = answer ∨ chronicle.Completed other answer')

/-- The session of a number has completed with what its outcome says. -/
private theorem completed_iff {session : Session.Session Empty Answer}
    (known : chronicle.world.sessions[number]? = some session) (answer : Answer) :
    chronicle.Completed number answer ↔ session.phase.outcome = some (.completed answer) := by
  simp [Completed, known]

/-- When one session has gone on, it has completed with what its outcome says now, and the others with what
they had before. -/
private theorem completed_set {session next : Session.Session Empty Answer}
    (known : chronicle.world.sessions[number]? = some session)
    (sessions : after.world.sessions = chronicle.world.sessions.set number next) (other : Nat)
    (answer : Answer) :
    after.Completed other answer ↔
      other = number ∧ next.phase.outcome = some (.completed answer) ∨
        other ≠ number ∧ chronicle.Completed other answer := by
  obtain ⟨bound, _⟩ := List.getElem?_eq_some_iff.mp known
  by_cases mine : other = number
  · subst mine
    have known' : after.world.sessions[other]? = some next := by
      rw [sessions, List.getElem?_set_self bound]
    simp [completed_iff known']
  · simp [Completed, sessions, List.getElem?_set_ne (Ne.symm mine), mine]

/-- Sessions that have gone on without completing have completed just what they had before. -/
private theorem completed_set_same {session next : Session.Session Empty Answer}
    (known : chronicle.world.sessions[number]? = some session)
    (sessions : after.world.sessions = chronicle.world.sessions.set number next)
    (same : ∀ answer, next.phase.outcome = some (.completed answer) ↔
      session.phase.outcome = some (.completed answer)) (other : Nat) (answer : Answer) :
    after.Completed other answer ↔ chronicle.Completed other answer := by
  rw [completed_set known sessions, same, ← completed_iff known]
  grind

/-- A new call completes nothing. -/
theorem completed_call (context : RequestContext) (operation : Operation) (number : Nat) (answer : Answer) :
    (chronicle.call context operation).Completed number answer ↔ chronicle.Completed number answer := by
  obtain ⟨new, sessions, _, unfinished, _⟩ := chronicle.call_adds context operation
  constructor
  · rintro ⟨session, known, decided⟩
    rcases World.session_added sessions known with old | ⟨_, rfl⟩
    · exact ⟨session, old, decided⟩
    · exact absurd decided (unfinished answer)
  · rintro ⟨session, known, decided⟩
    exact ⟨session, World.session_kept sessions known, decided⟩

/-- A turn of a session that still has work publishes what its operation has staged if it completes with it, and
otherwise nothing. -/
private theorem Regular.publishes_of_turn (regular : chronicle.Regular)
    {session next : Session.Session Empty Answer} {learned : List Session.Reading}
    {task : Session.Task Empty Answer} (remaining : session.phase.remaining = some task)
    (concerns : event.session? = some number)
    (known : chronicle.world.sessions[number]? = some session)
    (sessions : after.world.sessions = chronicle.world.sessions.set number next)
    (turn : Session.Turn chronicle.world.tables chronicle.world.clock session learned next
      after.world.tables) : chronicle.Publishes event after := by
  have undecided := Session.Phase.outcome_eq_none_of_remaining remaining
  have quiet : (∀ answer, next.phase.outcome ≠ some (.completed answer)) →
      ∀ other answer, after.Completed other answer ↔ chronicle.Completed other answer :=
    fun incomplete => completed_set_same known sessions fun answer => by simp [undecided, incomplete answer]
  generalize published : after.world.tables = tables at turn
  cases turn.works remaining with
  | stays remaining' | locks _ remaining' =>
      refine .nothing published (quiet fun answer => ?_)
      rw [Session.Phase.outcome_eq_none_of_remaining remaining']
      nofun
  | access =>
      refine .nothing published (quiet fun answer decided => ?_)
      cases decided
  | lapses lapses decided =>
      refine .nothing published (quiet fun answer completed => ?_)
      rw [decided] at completed
      exact lapses.ne_completed answer (Option.some.inj completed)
  | @publishes value _ before decided =>
      subst before
      obtain ⟨user, operation, called⟩ := regular.exists_call known
      have checked := regular.check_eq_ok called known fun e ended => by
        rw [ended] at remaining
        cases remaining
      obtain ⟨session', known', assured⟩ := regular.assures number user operation called checked
      rw [known] at known'
      cases known'
      refine .operation concerns called checked ?_ (assured.result remaining) published ?_
      · intro session' known'
        rw [known] at known'
        cases known'
        exact undecided
      · intro other answer
        have before : ¬chronicle.Completed number answer := by simp [completed_iff known, undecided]
        rw [completed_set known sessions, decided]
        grind

/-- Every event does one of these things. -/
theorem Regular.publishes (regular : chronicle.Regular) (happened : chronicle.after? event = some after) :
    chronicle.Publishes event after := by
  cases after?_proceeds happened with
  | called context operation _ eq =>
      subst eq
      obtain ⟨_, _, _, _, tables⟩ := chronicle.call_adds context operation
      exact .nothing tables (completed_call context operation)
  | aside _ sessions tables =>
      refine .nothing tables fun number answer => ?_
      rw [Completed, Completed, sessions]
  | @turned session _ _ number concerns known sessions turn =>
      cases remaining : session.phase.remaining with
      | none =>
          obtain ⟨outcome, decided⟩ := Session.Phase.remaining_eq_none_iff.mp remaining
          obtain ⟨_, same, decided', _⟩ := turn.of_decided decided
          refine .nothing same (completed_set_same known sessions fun answer => ?_)
          rw [decided, decided']
      | some task => exact regular.publishes_of_turn remaining concerns known sessions turn

/-- No two rows of the committed tables have one identifier. -/
theorem lasting_distinctRows : Lasting Tables.DistinctRows := by
  intro chronicle after event regular happened distinct
  cases regular.publishes happened with
  | nothing same => exact same ▸ distinct
  | operation _ _ _ _ _ tables => exact tables ▸ distinct.extend _

/-- Every entry is one of an account, whatever happens. -/
theorem lasting_referenced : Lasting Tables.Referenced := by
  intro chronicle after event regular happened referenced
  rcases after?_cases happened with ⟨context, operation, _, rfl⟩ | ⟨event', follows⟩
  · obtain ⟨_, _, _, _, tables⟩ := chronicle.call_adds context operation
    exact tables ▸ referenced
  · exact (regular.order.evolves follows.world).2 referenced

/-- An event that decides the outcome of an operation breaks it off, or the outcome is what the operation
yields. -/
theorem Regular.decides (regular : chronicle.Regular) (happened : chronicle.after? event = some after)
    {user : UserId} {operation : Operation} (called : chronicle.calls[number]? = some (user, operation))
    (checked : operation.check = .ok ()) {session next : Session.Session Empty Answer}
    (known : chronicle.world.sessions[number]? = some session) (undecided : session.phase.outcome = none)
    (known' : after.world.sessions[number]? = some next) {outcome : Outcome Answer}
    (decided : next.phase.outcome = some outcome) :
    outcome.BrokenOff ∨ ∃ result staged, outcome = .ofResult result ∧
      operation.Yields anyTables anyId chronicle.defaultCurrency user chronicle.world.tables result
        staged := by
  have same : ∀ {other : Session.Session Empty Answer}, after.world.sessions[number]? = some other →
      other ≠ session := by
    rintro other here rfl
    rw [known'] at here
    cases here
    rw [undecided] at decided
    cases decided
  cases after?_proceeds happened with
  | called context operation' _ eq =>
      subst eq
      obtain ⟨_, sessions, _⟩ := chronicle.call_adds context operation'
      exact absurd rfl (same (World.session_kept sessions known))
  | aside _ sessions => exact absurd rfl (same (sessions ▸ known))
  | @turned mover moved _ other concerns moverKnown sessions turn =>
      by_cases mine : other = number
      · subst mine
        obtain ⟨bound, _⟩ := List.getElem?_eq_some_iff.mp known
        rw [sessions, List.getElem?_set_self bound] at known'
        cases known'
        obtain ⟨session', here, assured⟩ := regular.assures other user operation called checked
        rw [known] at here moverKnown
        cases here
        cases moverKnown
        rcases assured.decides turn undecided decided with off | ⟨result, rfl, yields⟩
        · exact .inl off
        · exact .inr ⟨result, session.staged, rfl, yields⟩
      · refine absurd rfl (same ?_)
        rw [sessions, List.getElem?_set_ne mine, known]

/-- A session that has completed has its call, then and later. -/
theorem Regular.call_of_completed (regular : chronicle.Regular)
    (happened : chronicle.after? event = some after) {answer : Answer}
    (completed : chronicle.Completed number answer) : after.calls[number]? = chronicle.calls[number]? := by
  obtain ⟨session, known, _⟩ := completed
  obtain ⟨bound, _⟩ := List.getElem?_eq_some_iff.mp known
  rw [regular.length] at bound
  obtain ⟨more, calls⟩ := calls_grow happened
  rw [← calls, List.getElem?_append_left bound]

/-- An operation that has succeeded stays so. -/
theorem Regular.completed_after? (regular : chronicle.Regular)
    (happened : chronicle.after? event = some after) {answer : Answer}
    (completed : chronicle.Completed number answer) : after.Completed number answer := by
  cases regular.publishes happened with
  | nothing _ same => exact (same number answer).mpr completed
  | operation _ _ _ _ _ _ same => exact (same number answer).mpr (.inr completed)

end Chronicle

end Passbook.Service

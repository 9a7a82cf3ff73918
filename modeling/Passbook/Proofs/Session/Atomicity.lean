import Passbook.Proofs.Session.Staging
/-!
# Atomicity

A run that is the only one under way either commits all that its work has written or nothing.  Its work
reads the committed tables as they were when it was called, since nobody else writes; so what becomes of it
is what becomes of the work when it is carried out alone, unless the run lapses on its way.
-/

namespace Passbook.Session

open Store (Tables)

variable {ν α : Type}

/-! ### The way of a run -/

/-- The ways in which a run comes to nothing: its work has failed or broken down, a fault was injected, its
time was over, or its caller has given up. -/
inductive Void (base : Tables) (first : Task ν α) (readings : List Reading) : Outcome α → Prop where
  | refused {e : LedgerError} (written : Tables)
      (carried : first.execute base .empty readings = some (.failed e, written)) :
      Void base first readings (.failed e)
  | brokeDown {text : String} (written : Tables)
      (carried : first.execute base .empty readings = some (.panicked text, written)) :
      Void base first readings (.panicked text)
  | begin : Void base first readings (.failed (Store.injected "begin"))
  | commit : Void base first readings (.failed (Store.injected "commit"))
  | overdue : Void base first readings (.failed .timeout)
  | cancelled : Void base first readings .cancelled

/-- How far a run has come whose work began on committed tables: it is at work and nothing is committed, or
all that its work has written is committed, or nothing is and nothing will be. -/
inductive Progress (base : Tables) (first : Task ν α) (readings : List Reading)
    (session : Session ν α) (tables : Tables) : Prop where
  | atWork {task : Task ν α} (remaining : session.phase.remaining = some task)
      (led : first.LeadsTo base .everything readings task session.staged) (same : tables = base)
  | committed {value : α} {written : Tables} (decided : session.phase.outcome = some (.completed value))
      (distinct : written.DistinctRows)
      (carried : first.execute base .empty readings = some (.completed value, written))
      (published : tables = base.extend written)
  | void {outcome : Outcome α} (decided : session.phase.outcome = some outcome)
      (reason : Void base first readings outcome) (same : tables = base)

/-- What lapses comes to nothing. -/
private theorem Void.of_lapses {base staged : Tables} {first task : Task ν α} {readings : List Reading}
    {outcome : Outcome α} (led : first.LeadsTo base .everything readings task staged)
    (lapses : Lapses task outcome) : Void base first readings outcome := by
  cases lapses with
  | refused e => exact .refused staged led.execute_done
  | brokeDown text => exact .brokeDown staged led.execute_panic
  | begin => exact .begin
  | commit => exact .commit
  | overdue => exact .overdue
  | cancelled => exact .cancelled

/-- A turn brings a run further on its way. -/
theorem Progress.turn {base tables after : Tables} {clock : Nat} {first : Task ν α}
    {readings learned : List Reading} {session next : Session ν α}
    (progress : Progress base first readings session tables) (distinct : session.staged.DistinctRows)
    (turn : Turn tables clock session learned next after) :
    Progress base first (readings ++ learned) next after := by
  cases progress with
  | atWork remaining led same =>
      subst same
      cases turn.works remaining with
      | stays remaining' _ staged =>
          rw [List.append_nil]
          exact .atWork remaining' (staged ▸ led) rfl
      | locks before remaining' _ staged =>
          subst before
          rw [List.append_nil]
          exact .atWork remaining' (staged ▸ led.lock) rfl
      | access access => exact .atWork rfl (led.access (Task.within_everything _) access) rfl
      | lapses lapses decided =>
          rw [List.append_nil]
          exact .void decided (.of_lapses led lapses) rfl
      | publishes before decided =>
          subst before
          rw [List.append_nil]
          exact .committed decided distinct led.execute_done rfl
  | committed decided distinct carried published =>
      obtain ⟨quiet, same, decided', _⟩ := turn.of_decided decided
      rw [quiet, List.append_nil]
      exact .committed decided' distinct carried (same.trans published)
  | void decided reason same =>
      obtain ⟨quiet, same', decided', _⟩ := turn.of_decided decided
      rw [quiet, List.append_nil]
      exact .void decided' reason (same'.trans same)

section Progress

variable {base tables : Tables} {first : Task ν α} {readings : List Reading} {session : Session ν α}

/-- A run that has completed has committed all that its work has written. -/
theorem Progress.of_completed (progress : Progress base first readings session tables) {value : α}
    (decided : session.phase.outcome = some (.completed value)) :
    ∃ written, written.DistinctRows ∧
      first.execute base .empty readings = some (.completed value, written) ∧
        tables = base.extend written := by
  cases progress with
  | atWork remaining =>
      rw [Phase.outcome_eq_none_of_remaining remaining] at decided
      cases decided
  | @committed value' written decided' distinct carried published =>
      rw [decided] at decided'
      cases decided'
      exact ⟨written, distinct, carried, published⟩
  | void decided' reason =>
      rw [decided] at decided'
      cases decided'
      cases reason

/-- A run that has ended in any other way has committed nothing. -/
theorem Progress.of_incomplete (progress : Progress base first readings session tables)
    {outcome : Outcome α} (decided : session.phase.outcome = some outcome)
    (incomplete : ∀ value, outcome ≠ .completed value) :
    tables = base ∧ Void base first readings outcome := by
  cases progress with
  | atWork remaining =>
      rw [Phase.outcome_eq_none_of_remaining remaining] at decided
      cases decided
  | @committed value _ decided' =>
      rw [decided] at decided'
      exact absurd (Option.some.inj decided') (incomplete value)
  | void decided' reason same =>
      rw [decided] at decided'
      cases decided'
      exact ⟨same, reason⟩

end Progress

/-! ### A run that is alone -/

namespace World

/-- A store on which no run is under way: it has begun with any tables, and all sessions there have been are
over. -/
def Idle (world : World ν α) : Prop :=
  (∃ tables events, run? { empty with tables := tables } events = some world) ∧
    ∀ session ∈ world.sessions, session.IsOver

theorem Idle.inOrder {world : World ν α} (idle : world.Idle) : world.InOrder := by
  obtain ⟨⟨tables, events, ran⟩, _⟩ := idle
  exact (InOrder.of_none rfl rfl rfl).run? ran

/-- One session of the world is on its way, and all others are over. -/
structure Lone (base : Tables) (first : Task ν α) (context : RequestContext) (number : Nat)
    (readings : List Reading) (world : World ν α) : Prop where
  others : ∀ other session, other ≠ number → world.sessions[other]? = some session → session.IsOver
  own : ∃ session, world.sessions[number]? = some session ∧ session.context = context ∧
    Progress base first readings session world.tables

section Lone

variable {base : Tables} {first : Task ν α} {context : RequestContext} {number : Nat}
  {readings : List Reading} {world after : World ν α} {event : Event ν α}

/-- A run that has been called when all others are over is alone. -/
theorem Lone.of_over (isOver : ∀ session ∈ world.sessions, session.IsOver) (context : RequestContext)
    (opening : Nat) (work : Work ν α) :
    (world.call context opening work).Lone world.tables work.task context world.sessions.length [] where
  others := by
    intro other session different found
    rcases session_added rfl found with there | ⟨same, _⟩
    · exact isOver session (List.mem_of_getElem? there)
    · exact absurd same different
  own := by
    refine ⟨⟨context, .opening opening work.task, world.clock, [], .empty, []⟩, ?_, rfl, ?_⟩
    · simp [World.call]
    · exact .atWork rfl .start rfl

/-- A run that has been called on a store on which no other is under way is alone. -/
theorem Lone.call (idle : world.Idle) (context : RequestContext) (opening : Nat) (work : Work ν α) :
    (world.call context opening work).Lone world.tables work.task context world.sessions.length [] :=
  .of_over idle.2 context opening work

/-- A run stays alone as long as no other is called. -/
theorem Lone.after? (lone : world.Lone base first context number readings) (order : world.InOrder)
    (single : event.isCall = false) (happened : world.after? event = some after) :
    after.Lone base first context number (readings ++ world.toldTo number event) := by
  obtain ⟨session, known, same, progress⟩ := lone.own
  cases after?_happens happened with
  | called _ _ calls =>
      subst calls
      cases single
  | @turned mover next mover' moverKnown sessions turn _ others =>
      have mine : mover' = number := by
        by_cases mine : mover' = number
        · exact mine
        · exact absurd (lone.others mover' mover mine moverKnown) turn.not_isOver
      subst mine
      rw [known] at moverKnown
      cases moverKnown
      obtain ⟨bound, _⟩ := List.getElem?_eq_some_iff.mp known
      refine ⟨?_, next, ?_, ?_, progress.turn (order.staged known).distinct turn⟩
      · intro other found different here
        rcases session_after sessions here with ⟨mine, _⟩ | ⟨_, there⟩
        · exact absurd mine different
        · exact lone.others other found different there
      · rw [sessions, List.getElem?_set_self bound]
      · rw [turn.context_eq, same]
  | aside sessions tables _ _ quiet =>
      rw [quiet, List.append_nil]
      refine ⟨?_, session, ?_, same, ?_⟩
      · rw [sessions]
        exact lone.others
      · rw [sessions, known]
      · rw [tables]
        exact progress

/-- So it does over a whole history. -/
theorem Lone.run? {start : World ν α} (lone : start.Lone base first context number [])
    (order : start.InOrder) {events : List (Event ν α)} (single : ∀ event ∈ events, event.isCall = false)
    (ran : start.run? events = some after) :
    after.Lone base first context number (start.heard number events) := by
  induction leads_of_run? ran with
  | start => exact lone
  | @snoc events world after event before happened inductionHypothesis =>
      have ran' := run?_eq before
      rw [heard_snoc ran']
      refine (inductionHypothesis ?_ ran').after? (order.run? ran') ?_ happened
      · exact fun event member => single event (List.mem_append_left _ member)
      · exact single event (by simp)

/-- When a run that is alone is over, all locks are free. -/
theorem Lone.locks_free (lone : world.Lone base first context number readings) (order : world.InOrder)
    {session : Session ν α} (known : world.sessions[number]? = some session) (ended : session.IsOver) :
    ∀ lock ∈ world.locks, lock = ⟨none, []⟩ := by
  apply order.locks.free
  rintro other member lock ⟨id, inLine⟩
  have ended' : other.IsOver := by
    obtain ⟨another, there⟩ := List.getElem?_of_mem member
    by_cases mine : another = number
    · subst mine
      rw [known] at there
      cases there
      exact ended
    · exact lone.others another other mine there
  rcases inLine with has | waits
  · rw [(order.tidy other member (.inr ended')).1] at has
    cases has
  · obtain ⟨outcome, phase⟩ := ended'
    rw [phase] at waits
    cases waits

end Lone

/-! ### The check before the commit -/

/-- In the course of a history a session has come to a result and found that its time was not over: the clock had
not reached its deadline, if it has one. -/
def ChecksInTime (start : World ν α) (number : Nat) (context : RequestContext) (value : α)
    (events : List (Event ν α)) : Prop :=
  ∃ earlier event later world after session next,
    events = earlier ++ event :: later ∧ start.run? earlier = some world ∧
      world.after? event = some after ∧
        world.sessions[number]? = some session ∧ session.phase = .closing (.ok value) ∧
          context.isExpired world.clock = false ∧
            (∀ deadline, context.deadline = some deadline → world.clock < deadline) ∧
            after.sessions[number]? = some next ∧ next.phase = .committing value

variable {start world after finish : World ν α} {number : Nat} {context : RequestContext}
  {events : List (Event ν α)}

/-- What is to be committed has passed the check. -/
theorem checksInTime {session : Session ν α} {value : α}
    (fresh : ∃ session, start.sessions[number]? = some session ∧ session.phase.isOpening = true ∧
      session.context = context)
    (single : ∀ event ∈ events, event.isCall = false) (ran : start.run? events = some after)
    (known : after.sessions[number]? = some session) :
    session.context = context ∧
      (session.phase.approved = some value → start.ChecksInTime number context value events) := by
  induction leads_of_run? ran generalizing session with
  | start =>
      obtain ⟨session', known', opening, same⟩ := fresh
      rw [known] at known'
      cases known'
      refine ⟨same, ?_⟩
      intro approved
      cases phase : session.phase <;> simp_all [Phase.isOpening, Phase.approved]
  | @snoc events world after event before happened inductionHypothesis =>
      have ran' := run?_eq before
      have single' : ∀ event ∈ events, event.isCall = false := fun event member =>
        single event (List.mem_append_left _ member)
      have longer : ∀ {value}, start.ChecksInTime number context value events →
          start.ChecksInTime number context value (events ++ [event]) := by
        rintro value ⟨earlier, event', later, world, after, session, next, rfl, rest⟩
        exact ⟨earlier, event', later ++ [event], world, after, session, next, by simp, rest⟩
      have stays : world.sessions[number]? = some session → session.context = context ∧
          (session.phase.approved = some value →
            start.ChecksInTime number context value (events ++ [event])) := by
        intro there
        obtain ⟨same, checked⟩ := inductionHypothesis single' ran' there
        exact ⟨same, fun approved => longer (checked approved)⟩
      cases after?_happens happened with
      | called _ _ calls =>
          have contrary := single event (by simp)
          subst calls
          cases contrary
      | turned mover moverKnown sessions turn =>
          rcases session_after sessions known with ⟨rfl, rfl⟩ | ⟨_, there⟩
          · obtain ⟨same, checked⟩ := inductionHypothesis single' ran' moverKnown
            refine ⟨turn.context_eq.trans same, ?_⟩
            intro approved
            rcases turn.approved_cases approved with already | ⟨closing, inTime, committing⟩
            · exact longer (checked already)
            · have inTime' : context.isExpired world.clock = false := same ▸ inTime
              exact ⟨events, event, [], world, after, _, _, rfl, ran', happened, moverKnown, closing, inTime',
                RequestContext.isExpired_eq_false_iff.mp inTime', known, committing⟩
          · exact stays there
      | aside sessions =>
          rw [sessions] at known
          exact stays known

/-! ### Runs that do not begin -/

/-- What keeps a run that has not begun from ever beginning, and how it ends then. -/
inductive Forestalls (world : World ν α) (number : Nat) : Event ν α → Outcome α → Prop where
  /-- A fault was injected into the beginning. -/
  | fault (around : Surroundings) (armed : world.faults.begin = true) :
      Forestalls world number (.advanced number around) (.failed (Store.injected "begin"))
  | overdue : Forestalls world number (.expired number) (.failed .timeout)
  | cancelled : Forestalls world number (.cancelled number) .cancelled

/-- In the course of a history the work of a session is never begun. -/
def NeverBegins (start : World ν α) (number : Nat) (events : List (Event ν α)) : Prop :=
  ∀ earlier later world session, events = earlier ++ later → start.run? earlier = some world →
    world.sessions[number]? = some session → session.phase.isOpening = true ∨ session.IsOver

/-- A run that is kept from beginning is over at once. -/
theorem Forestalls.finished {event : Event ν α} {outcome : Outcome α} {session : Session ν α}
    (forestalls : world.Forestalls number event outcome)
    (known : world.sessions[number]? = some session) (opening : session.phase.isOpening = true)
    (happened : world.after? event = some after) :
    ∃ next, after.sessions[number]? = some next ∧ next.phase = .finished outcome := by
  obtain ⟨bound, _⟩ := List.getElem?_eq_some_iff.mp known
  cases phase : session.phase with
  | opening start task =>
      cases forestalls with
      | fault around armed =>
          simp only [World.after?, advance, known, Option.bind_eq_bind, Option.bind_some, phase, armed,
            if_true] at happened
          split at happened
          · cases happened
          · cases happened
            exact ⟨_, List.getElem?_set_self bound, rfl⟩
      | overdue =>
          simp only [World.after?, expire, known, Option.bind_eq_bind, Option.bind_some] at happened
          split at happened
          · simp only [breakOff, known, Option.bind_eq_bind, Option.bind_some, phase] at happened
            cases happened
            exact ⟨_, List.getElem?_set_self bound, rfl⟩
          · cases happened
      | cancelled =>
          simp only [World.after?, breakOff, known, Option.bind_eq_bind, Option.bind_some, phase] at happened
          cases happened
          exact ⟨_, List.getElem?_set_self bound, rfl⟩
  | _ =>
      rw [phase] at opening
      cases opening

/-- A session is found in all later worlds, and it has begun there if it has begun. -/
private theorem begun_later {session : Session ν α} (known : world.sessions[number]? = some session)
    (begun : session.phase.isOpening = false) {events : List (Event ν α)}
    (ran : world.run? events = some after) :
    ∃ later, after.sessions[number]? = some later ∧ later.phase.isOpening = false := by
  apply run?_induction ⟨session, known, begun⟩ _ ran
  intro before next event
  exact after?_keeps fun _ turn => turn.isOpening_eq_false

/-- The work of a run that is kept from beginning is never begun, before or after. -/
theorem Forestalls.neverBegins {earlier later : List (Event ν α)} {event : Event ν α}
    {outcome : Outcome α} {session : Session ν α} (forestalls : world.Forestalls number event outcome)
    (ran : start.run? earlier = some world) (known : world.sessions[number]? = some session)
    (opening : session.phase.isOpening = true) (happened : world.after? event = some after)
    (ran' : after.run? later = some finish) :
    start.NeverBegins number (earlier ++ event :: later) ∧
      ∃ last, finish.sessions[number]? = some last ∧ last.phase = .finished outcome := by
  obtain ⟨next, known', finished⟩ := forestalls.finished known opening happened
  refine ⟨?_, next, run?_of_isOver known' ⟨outcome, finished⟩ ran', finished⟩
  intro earlier' later' other found split reached there
  -- A world on the way lies either before the event or after it.
  rcases List.append_eq_append_iff.mp split with ⟨more, rfl, rest⟩ | ⟨more, rfl, rest⟩
  · cases more with
    | nil =>
        rw [List.append_nil, ran] at reached
        cases reached
        rw [known] at there
        cases there
        exact .inl opening
    | cons first more =>
        cases rest
        rw [run?_append, ran, Option.bind_some] at reached
        obtain ⟨second, happened', reached⟩ := Option.bind_eq_some_iff.mp reached
        rw [happened] at happened'
        cases happened'
        rw [run?_of_isOver known' ⟨outcome, finished⟩ reached] at there
        cases there
        exact .inr ⟨outcome, finished⟩
  · cases begun : found.phase.isOpening with
    | true => exact .inl rfl
    | false =>
        rw [run?_append, reached, Option.bind_some] at ran
        obtain ⟨same, known'', begun'⟩ := begun_later there begun ran
        rw [known] at known''
        cases known''
        rw [opening] at begun'
        cases begun'

/-! ### All or nothing -/

/-- A run on a store on which no other is under way commits all or nothing.  If it completes, then its work
has come to this value, its time was not over when that was checked before the commit, and all rows and
entries that its work has written are committed; however else it ends, nothing is.  What it has staged is gone
and all locks are free; and if it is kept from beginning then its work is never begun. -/
theorem run_all_or_nothing {start finish : World ν α} (idle : start.Idle) (context : RequestContext)
    (opening : Nat) (work : Work ν α) {events : List (Event ν α)}
    (single : ∀ event ∈ events, event.isCall = false)
    (ran : (start.call context opening work).run? events = some finish)
    {session : Session ν α} (known : finish.sessions[start.sessions.length]? = some session)
    {outcome : Outcome α} (ended : session.phase = .finished outcome) :
    (∀ value, outcome = .completed value →
      ∃ written,
        work.task.execute start.tables .empty
            ((start.call context opening work).heard start.sessions.length events) =
          some (.completed value, written) ∧
        (start.call context opening work).ChecksInTime start.sessions.length context value events ∧
        finish.tables = start.tables.extend written ∧
        (∀ id, finish.tables.account? id = (written.account? id).or (start.tables.account? id)) ∧
        finish.tables.entries = start.tables.entries ++ written.entries) ∧
    ((∀ value, outcome ≠ .completed value) →
      finish.tables = start.tables ∧
        Void start.tables work.task
          ((start.call context opening work).heard start.sessions.length events) outcome) ∧
    session.staged = .empty ∧ session.held = [] ∧ (∀ lock ∈ finish.locks, lock = ⟨none, []⟩) ∧
    (∀ earlier event later world waiting outcome', events = earlier ++ event :: later →
      (start.call context opening work).run? earlier = some world →
        world.sessions[start.sessions.length]? = some waiting → waiting.phase.isOpening = true →
          world.Forestalls start.sessions.length event outcome' →
            outcome = outcome' ∧
              (start.call context opening work).NeverBegins start.sessions.length events) := by
  have order : (start.call context opening work).InOrder := idle.inOrder.call context opening work
  have lone := (Lone.call idle context opening work).run? order single ran
  have finalOrder := order.run? ran
  obtain ⟨own, known', _, progress⟩ := lone.own
  rw [known] at known'
  cases known'
  have decided : session.phase.outcome = some outcome := by rw [ended]; rfl
  obtain ⟨free, nothing⟩ :=
    finalOrder.tidy session (List.mem_of_getElem? known) (.inr ⟨outcome, ended⟩)
  refine ⟨?_, progress.of_incomplete decided, nothing, free, ?_, ?_⟩
  · rintro value rfl
    have checked : (start.call context opening work).ChecksInTime start.sessions.length context value
        events := by
      have fresh : ∃ session,
          (start.call context opening work).sessions[start.sessions.length]? = some session ∧
            session.phase.isOpening = true ∧ session.context = context :=
        ⟨⟨context, .opening opening work.task, start.clock, [], .empty, []⟩, by simp [World.call], rfl, rfl⟩
      exact (checksInTime fresh single ran known).2 (by rw [ended]; rfl)
    obtain ⟨written, distinct, carried, published⟩ := progress.of_completed decided
    refine ⟨written, carried, checked, published, ?_, ?_⟩
    · intro id
      rw [published, Tables.account?_extend distinct]
    · rw [published, Tables.entries_extend]
  · exact lone.locks_free finalOrder known ⟨outcome, ended⟩
  · rintro earlier event later world waiting outcome' rfl reached there unbegun forestalls
    rw [run?_append, reached, Option.bind_some] at ran
    obtain ⟨after, happened, ran⟩ := Option.bind_eq_some_iff.mp ran
    obtain ⟨never, last, known', finished⟩ :=
      forestalls.neverBegins reached there unbegun happened ran
    rw [known] at known'
    cases known'
    rw [ended] at finished
    cases finished
    exact ⟨rfl, never⟩

/-- An account is opened by a run that is alone and has a deadline. -/
theorem run_all_or_nothing_opening :
    let account := Account.opened ⟨Uuid.ofNat 1⟩ ⟨Uuid.ofNat 2⟩ .eur ⟨0, 0⟩
    let work : Work Empty Unit := Work.ask (.createAccount account)
    let around : Surroundings := ⟨⟨0, 0⟩, Uuid.ofNat 3, fun _ _ => .error .outOfRange⟩
    let context := (RequestContext.ofUser ⟨Uuid.ofNat 2⟩).withDeadline 5
    let start := (empty : World Empty Unit).call context 0 work
    ∃ finish session, start.run? (List.replicate 11 (.advanced 0 around)) = some finish ∧
      finish.sessions[0]? = some session ∧ session.phase = .finished (.completed ()) ∧
        start.ChecksInTime 0 context () (List.replicate 11 (.advanced 0 around)) ∧
          finish.tables.account? account.id = some account ∧ session.held = [] := by
  intro account work around context start
  have idle : (empty : World Empty Unit).Idle := by
    refine ⟨⟨.empty, [], rfl⟩, ?_⟩
    intro session member
    cases member
  have single : ∀ event ∈ List.replicate 11 (.advanced 0 around : Event Empty Unit),
      event.isCall = false := by
    intro event member
    rw [List.eq_of_mem_replicate member]
    rfl
  have ends : ((start.run? (List.replicate 11 (.advanced 0 around))).bind (·.sessions[0]?)).bind
      (·.phase.ending) = some (.completed ()) := by
    decide +kernel
  obtain ⟨session, reached, ending⟩ := Option.bind_eq_some_iff.mp ends
  obtain ⟨finish, ran, known⟩ := Option.bind_eq_some_iff.mp reached
  have ended := Phase.ending_eq_some_iff.mp ending
  obtain ⟨completes, _, _, free, _⟩ := run_all_or_nothing idle _ 0 work single ran known ended
  obtain ⟨written, carried, checked, _, rows, _⟩ := completes () rfl
  have row : (work.task.execute (empty : World Empty Unit).tables .empty
      (start.heard 0 (List.replicate 11 (.advanced 0 around)))).map (·.2.account? account.id) =
        some (some account) := by
    decide +kernel
  refine ⟨finish, session, ran, known, ended, checked, ?_, free⟩
  have carried' : work.task.execute (empty : World Empty Unit).tables .empty
      (start.heard 0 (List.replicate 11 (.advanced 0 around))) = some (.completed (), written) := carried
  rw [carried'] at row
  have found : written.account? account.id = some account := Option.some.inj row
  rw [rows, found]
  rfl

end World

end Passbook.Session

import Passbook.Proofs.Session.Execution
/-!
# Turns

Whatever happens to a world happens to one session at a time.  What such a turn does to the session and to
the committed tables is said here once; how the locks change hands is left to the study of locks.  The
invariants of sessions are proved over turns and never look at the steps themselves, which are compared with
turns elsewhere.
-/

namespace Passbook.Session

open Store (Tables)

variable {ν α : Type}

/-! ### Where a session stands -/

/-- What remains of a session's work.  Nothing remains once its outcome is decided. -/
def Phase.remaining : Phase ν α → Option (Task ν α)
  | .opening _ task | .running task => some task
  | .acquiring id _ next | .waiting id _ next => some (.lockRow id next)
  | .closing result => some (.done result)
  | .committing value | .publishing value => some (.done (.ok value))
  | .releasing _ | .finished _ => none

/-- How a session has ended, as soon as that is decided. -/
def Phase.outcome : Phase ν α → Option (Outcome α)
  | .releasing outcome | .finished outcome => some outcome
  | _ => none

def Task.result? : Task ν α → Option (Except LedgerError α)
  | .done result => some result
  | _ => none

theorem Task.result?_eq_some_iff {task : Task ν α} {result : Except LedgerError α} :
    task.result? = some result ↔ task = .done result := by
  cases task <;> simp [result?]

/-- Either work remains or the outcome is decided. -/
theorem Phase.remaining_eq_none_iff {phase : Phase ν α} :
    phase.remaining = none ↔ ∃ outcome, phase.outcome = some outcome := by
  cases phase <;> simp [remaining, outcome]

theorem Phase.remaining_of_outcome {phase : Phase ν α} {outcome : Outcome α}
    (decided : phase.outcome = some outcome) : phase.remaining = none :=
  Phase.remaining_eq_none_iff.mpr ⟨outcome, decided⟩

theorem Phase.outcome_eq_none_of_remaining {phase : Phase ν α} {task : Task ν α}
    (remains : phase.remaining = some task) : phase.outcome = none := by
  cases phase <;> simp_all [remaining, outcome]

def Phase.isOpening : Phase ν α → Bool
  | .opening _ _ => true
  | _ => false

/-- The result that is to be committed, from the moment on at which this is settled. -/
def Phase.approved : Phase ν α → Option α
  | .committing value | .publishing value => some value
  | .releasing (.completed value) | .finished (.completed value) => some value
  | _ => none

/-- How a session has ended, once it is over. -/
def Phase.ending : Phase ν α → Option (Outcome α)
  | .finished outcome => some outcome
  | _ => none

theorem Phase.ending_eq_some_iff {phase : Phase ν α} {outcome : Outcome α} :
    phase.ending = some outcome ↔ phase = .finished outcome := by
  cases phase <;> simp [ending]

def Session.IsOver (session : Session ν α) : Prop := ∃ outcome, session.phase = .finished outcome

/-- A session that is not at work, since it has not begun or since it is over, has locked nothing and staged
nothing. -/
def Session.Tidy (session : Session ν α) : Prop :=
  session.phase.isOpening = true ∨ session.IsOver → session.held = [] ∧ session.staged = .empty

def Session.Holds (session : Session ν α) (id : AccountId) : Prop :=
  ∃ lock, (id, lock) ∈ session.held

theorem Session.holds_iff {session : Session ν α} {id : AccountId} :
    session.holds id = true ↔ session.Holds id := by
  simp [holds, Holds]

/-! ### Turns of a session -/

def Task.noting : Task ν α → List ν → List ν
  | .note entry _, notes => notes ++ [entry]
  | _, notes => notes

/-- The ways in which a run comes to an end without publishing anything, by what remained of the work. -/
inductive Lapses : Task ν α → Outcome α → Prop where
  | refused (e : LedgerError) : Lapses (.done (.error e)) (.failed e)
  | brokeDown (text : String) : Lapses (.panic text) (.panicked text)
  | begin (task : Task ν α) : Lapses task (.failed (Store.injected "begin"))
  | commit (value : α) : Lapses (.done (.ok value)) (.failed (Store.injected "commit"))
  | overdue (task : Task ν α) : Lapses task (.failed .timeout)
  | cancelled (task : Task ν α) : Lapses task .cancelled

/-- What lapses is not committed. -/
theorem Lapses.ne_completed {task : Task ν α} {outcome : Outcome α}
    (lapses : Lapses task outcome) (value : α) : outcome ≠ .completed value := by
  cases lapses <;> nofun

/-- A turn of a session at a time of the clock: what it is told, the session after it, and the committed
tables after it. -/
inductive Turn (committed : Tables) (clock : Nat) (session : Session ν α) :
    List Reading → Session ν α → Tables → Prop where
  /-- Nothing comes of it but that the session is further on. -/
  | pass {task : Task ν α} (phase : Phase ν α) (before : session.phase.remaining = some task)
      (after : phase.remaining = some task) (begun : phase.isOpening = false)
      (unapproved : phase.approved = session.phase.approved) :
      Turn committed clock session [] { session with phase := phase, since := clock } committed
  /-- Its time is not over, and its result is to be committed. -/
  | approve {value : α} (before : session.phase = .closing (.ok value))
      (inTime : session.context.isExpired clock = false) :
      Turn committed clock session [] { session with phase := .committing value, since := clock }
        committed
  /-- It gets a lock. -/
  | lock {id : AccountId} {next : Task ν α} (lock : Nat)
      (before : session.phase.remaining = some (.lockRow id next)) :
      Turn committed clock session []
        { session with phase := .running next, since := clock, held := (id, lock) :: session.held }
        committed
  /-- It has the lock already. -/
  | lockAgain {id : AccountId} {next : Task ν α}
      (before : session.phase.remaining = some (.lockRow id next)) (holds : session.Holds id) :
      Turn committed clock session [] { session with phase := .running next, since := clock } committed
  | access {task next : Task ν α} {learned : List Reading} {written : Tables}
      (before : session.phase = .running task)
      (access : Access committed task session.staged learned next written) :
      Turn committed clock session learned
        { session with
          phase := .running next
          since := clock
          staged := written
          notes := task.noting session.notes }
        committed
  /-- It comes to its end before it has begun. -/
  | miss {start : Nat} {task : Task ν α} {outcome : Outcome α}
      (before : session.phase = .opening start task) (lapses : Lapses task outcome) :
      Turn committed clock session [] { session with phase := .finished outcome, since := clock }
        committed
  /-- Its outcome is decided, and its writes come to nothing. -/
  | lapse {task : Task ν α} {outcome : Outcome α} (before : session.phase.remaining = some task)
      (lapses : Lapses task outcome) :
      Turn committed clock session [] { session with phase := .releasing outcome, since := clock }
        committed
  /-- Its writes are published. -/
  | publish {value : α} (before : session.phase = .publishing value) :
      Turn committed clock session []
        { session with phase := .releasing (.completed value), since := clock }
        (committed.extend session.staged)
  /-- It gives up a lock. -/
  | release {outcome : Outcome α} (before : session.phase = .releasing outcome) :
      Turn committed clock session [] { session with held := session.held.tail } committed
  /-- It is over. -/
  | finish {outcome : Outcome α} (before : session.phase = .releasing outcome)
      (free : session.held = []) :
      Turn committed clock session []
        { session with phase := .finished outcome, since := clock, staged := .empty } committed

namespace Turn

variable {committed after : Tables} {clock : Nat} {session next : Session ν α} {learned : List Reading}

theorem context_eq (turn : Turn committed clock session learned next after) :
    next.context = session.context := by
  cases turn <;> rfl

/-- A session that has had a turn has begun. -/
theorem isOpening_eq_false (turn : Turn committed clock session learned next after) :
    next.phase.isOpening = false := by
  cases turn with
  | pass _ _ _ begun => exact begun
  | release before => simp only [before, Phase.isOpening]
  | _ => rfl

/-- A session that is over has no turn any more. -/
theorem not_isOver (turn : Turn committed clock session learned next after) : ¬session.IsOver := by
  rintro ⟨outcome, ended⟩
  cases turn with
  | pass _ before | lock _ before | lockAgain before | lapse before =>
      rw [ended] at before
      cases before
  | approve before | access before | miss before | publish before | release before | finish before =>
      rw [ended] at before
      cases before

/-- What is decided stays decided. -/
theorem outcome_eq (turn : Turn committed clock session learned next after) {outcome : Outcome α}
    (decided : session.phase.outcome = some outcome) : next.phase.outcome = some outcome := by
  cases turn with
  | release before => exact decided
  | finish before =>
      rw [before] at decided
      exact decided
  | pass _ before | lock _ before | lockAgain before | lapse before =>
      rw [Phase.outcome_eq_none_of_remaining before] at decided
      cases decided
  | approve before | access before | miss before | publish before =>
      rw [before] at decided
      cases decided

/-- Nothing comes any more of a session whose outcome is decided, and what it has staged stays or is gone. -/
theorem of_decided (turn : Turn committed clock session learned next after) {outcome : Outcome α}
    (decided : session.phase.outcome = some outcome) :
    learned = [] ∧ after = committed ∧ next.phase.outcome = some outcome ∧
      (next.staged = session.staged ∨ next.staged = .empty) := by
  have stays := turn.outcome_eq decided
  cases turn with
  | release before => exact ⟨rfl, rfl, stays, .inl rfl⟩
  | finish before => exact ⟨rfl, rfl, stays, .inr rfl⟩
  | pass _ before | lock _ before | lockAgain before | lapse before =>
      rw [Phase.outcome_eq_none_of_remaining before] at decided
      cases decided
  | approve before | access before | miss before | publish before =>
      rw [before] at decided
      cases decided

/-- A turn leaves a session tidy. -/
theorem tidy (turn : Turn committed clock session learned next after) (tidy : session.Tidy) :
    next.Tidy := by
  have begun := turn.isOpening_eq_false
  rintro (opening | ⟨outcome, ended⟩)
  · rw [begun] at opening
    cases opening
  · cases turn with
    | pass _ _ remaining =>
        simp only at ended
        rw [ended] at remaining
        cases remaining
    | miss before => exact tidy (.inl (by rw [before]; rfl))
    | release before =>
        simp only [before] at ended
        cases ended
    | finish before free => exact ⟨free, rfl⟩
    | _ => cases ended

/-- A result is to be committed only if it was there before the time was over. -/
theorem approved_cases (turn : Turn committed clock session learned next after) {value : α}
    (approved : next.phase.approved = some value) :
    session.phase.approved = some value ∨
      session.phase = .closing (.ok value) ∧ session.context.isExpired clock = false ∧
        next.phase = .committing value := by
  cases turn with
  | pass _ _ _ _ unapproved => exact .inl (unapproved ▸ approved)
  | approve before inTime =>
      cases approved
      exact .inr ⟨before, inTime, rfl⟩
  | publish before =>
      rw [before]
      exact .inl approved
  | release before => exact .inl approved
  | @finish outcome before =>
      rw [before]
      cases outcome with
      | completed other => exact .inl approved
      | _ => cases approved
  | lock | lockAgain | access => cases approved
  | @miss _ _ outcome _ lapses =>
      cases outcome with
      | completed other => exact absurd rfl (lapses.ne_completed other)
      | _ => cases approved
  | @lapse _ outcome _ lapses =>
      cases outcome with
      | completed other => exact absurd rfl (lapses.ne_completed other)
      | _ => cases approved

end Turn

/-- What a turn comes to for a session whose outcome is not decided, by what remained of its work. -/
inductive Works (committed : Tables) (clock : Nat) (session : Session ν α) (task : Task ν α) :
    List Reading → Session ν α → Tables → Prop where
  | stays {next : Session ν α} (remaining : next.phase.remaining = some task)
      (held : next.held = session.held) (staged : next.staged = session.staged)
      (notes : next.notes = session.notes) :
      Works committed clock session task [] next committed
  | locks {id : AccountId} {rest : Task ν α} {next : Session ν α} (before : task = .lockRow id rest)
      (remaining : next.phase.remaining = some rest)
      (holds : next.Holds = fun other => other = id ∨ session.Holds other)
      (staged : next.staged = session.staged) (notes : next.notes = session.notes) :
      Works committed clock session task [] next committed
  | access {rest : Task ν α} {learned : List Reading} {written : Tables}
      (access : Access committed task session.staged learned rest written) :
      Works committed clock session task learned
        { session with
          phase := .running rest
          since := clock
          staged := written
          notes := task.noting session.notes }
        committed
  | lapses {outcome : Outcome α} {next : Session ν α} (lapses : Lapses task outcome)
      (decided : next.phase.outcome = some outcome) (staged : next.staged = session.staged)
      (notes : next.notes = session.notes) : Works committed clock session task [] next committed
  | publishes {value : α} {next : Session ν α} (before : task = .done (.ok value))
      (decided : next.phase.outcome = some (.completed value))
      (staged : next.staged = session.staged) (notes : next.notes = session.notes) :
      Works committed clock session task [] next (committed.extend session.staged)

/-- A session whose outcome is not decided works on. -/
theorem Turn.works {committed after : Tables} {clock : Nat} {session next : Session ν α}
    {learned : List Reading} {task : Task ν α} (turn : Turn committed clock session learned next after)
    (remaining : session.phase.remaining = some task) :
    Works committed clock session task learned next after := by
  have same : ∀ {other : Task ν α}, session.phase.remaining = some other → other = task := by
    intro other before
    rw [remaining] at before
    exact (Option.some.inj before).symm
  cases turn with
  | pass phase before afterwards =>
      cases same before
      exact .stays afterwards rfl rfl rfl
  | approve before =>
      cases same (by rw [before]; rfl)
      exact .stays rfl rfl rfl rfl
  | lock lock before =>
      refine .locks (same before).symm rfl ?_ rfl rfl
      funext other
      simp [Session.Holds, exists_or]
  | lockAgain before holds =>
      refine .locks (same before).symm rfl ?_ rfl rfl
      funext other
      refine propext ⟨.inr, ?_⟩
      rintro (rfl | already)
      · exact holds
      · exact already
  | access before access =>
      cases same (by rw [before]; rfl)
      exact .access access
  | miss before lapses =>
      cases same (by rw [before]; rfl)
      exact .lapses lapses rfl rfl rfl
  | lapse before lapses =>
      cases same before
      exact .lapses lapses rfl rfl rfl
  | publish before => exact .publishes (same (by rw [before]; rfl)).symm rfl rfl rfl
  | release before | finish before =>
      rw [before] at remaining
      cases remaining

/-- A session that is still at work after a turn has just come to where it is. -/
theorem Turn.since_eq {committed after : Tables} {clock : Nat} {session next : Session ν α}
    {learned : List Reading} {task : Task ν α} (turn : Turn committed clock session learned next after)
    (remaining : next.phase.remaining = some task) : next.since = clock := by
  cases turn with
  | release before =>
      rw [before] at remaining
      cases remaining
  | _ => rfl

/-- A turn leaves the notes as they are, unless it is the one in which the task makes a note. -/
theorem Turn.notes_cases {committed after : Tables} {clock : Nat} {session next : Session ν α}
    {learned : List Reading} (turn : Turn committed clock session learned next after) :
    next.notes = session.notes ∨
      ∃ entry rest, session.phase = .running (.note entry rest) ∧ learned = [] ∧ after = committed ∧
        next = { session with
          phase := .running rest
          since := clock
          notes := session.notes ++ [entry] } := by
  cases turn with
  | access before access =>
      cases access with
      | note entry => exact .inr ⟨entry, _, before, rfl, rfl, rfl⟩
      | _ => exact .inl rfl
  | _ => exact .inl rfl

end Passbook.Session

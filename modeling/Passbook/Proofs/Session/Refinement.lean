import Passbook.Proofs.Session.Atomicity
import Passbook.Proofs.Session.Copy
/-!
# A run that is alone is a run on a copy

A session reads through its own writes to the committed tables and publishes what it has written when its run
completes.  As long as no other session is under way it could as well have a copy of the tables for its own:
its calls are answered as the copy answers them, and what is committed in the end is the copy.
-/

namespace Passbook.Session

open Store (Tables)

variable {ν α : Type}

/-- A run whose work has come to a result has carried it out. -/
theorem Progress.execute_of_done {base tables : Tables} {first : Task ν α} {readings : List Reading}
    {session : Session ν α} (progress : Progress base first readings session tables)
    {result : Except LedgerError α} (remaining : session.phase.remaining = some (.done result)) :
    first.execute base .empty readings = some (.ofResult result, session.staged) := by
  cases progress with
  | atWork remaining' led =>
      rw [remaining] at remaining'
      cases remaining'
      exact led.execute_done
  | committed decided | void decided =>
      rw [Phase.outcome_eq_none_of_remaining remaining] at decided
      cases decided

/-! ### The notes of a run -/

/-- The notes that a run has made so far are those of its task, and after it has completed there are no
more. -/
inductive Transcribed (base : Tables) (first : Task ν α) (readings : List Reading)
    (session : Session ν α) : Prop where
  | atWork {task : Task ν α} (remaining : session.phase.remaining = some task)
      (sofar : ∀ rest, first.transcript base .empty (readings ++ rest) =
        session.notes ++ task.transcript base session.staged rest)
  | completed {value : α} (decided : session.phase.outcome = some (.completed value))
      (all : session.notes = first.transcript base .empty readings)
  | void {outcome : Outcome α} (decided : session.phase.outcome = some outcome)
      (incomplete : ∀ value, outcome ≠ .completed value)
      (some : session.notes <+: first.transcript base .empty readings)

namespace Transcribed

variable {base tables after : Tables} {clock : Nat} {first : Task ν α} {readings learned : List Reading}
  {session next : Session ν α}

/-- As far as a run has come its notes are those of its task. -/
theorem isPrefix (transcribed : Transcribed base first readings session) :
    session.notes <+: first.transcript base .empty readings := by
  cases transcribed with
  | atWork remaining sofar =>
      have here := sofar []
      rw [List.append_nil] at here
      rw [here]
      exact List.prefix_append _ _
  | completed decided all => exact all ▸ List.prefix_refl _
  | void decided incomplete some => exact some

/-- A run whose work has come to a result has made all notes of its task. -/
theorem notes_of_done (transcribed : Transcribed base first readings session)
    {result : Except LedgerError α} (remaining : session.phase.remaining = some (.done result)) :
    session.notes = first.transcript base .empty readings := by
  cases transcribed with
  | atWork remaining' sofar =>
      rw [remaining] at remaining'
      cases remaining'
      have all := sofar []
      have none : (Task.done result : Task ν α).transcript base session.staged [] = [] := rfl
      rw [none, List.append_nil, List.append_nil] at all
      exact all.symm
  | completed decided | void decided =>
      rw [Phase.outcome_eq_none_of_remaining remaining] at decided
      cases decided

/-- So has a run that has completed. -/
theorem notes_of_completed (transcribed : Transcribed base first readings session) {value : α}
    (completed : session.phase.outcome = some (.completed value)) :
    session.notes = first.transcript base .empty readings := by
  cases transcribed with
  | atWork remaining =>
      rw [Phase.outcome_eq_none_of_remaining remaining] at completed
      cases completed
  | completed decided all => exact all
  | void decided incomplete =>
      rw [completed] at decided
      exact absurd (Option.some.inj decided).symm (incomplete value)

/-- A session whose outcome is decided makes no more notes. -/
private theorem notes_of_decided (turn : Turn tables clock session learned next after)
    {outcome : Outcome α} (decided : session.phase.outcome = some outcome) :
    next.notes = session.notes := by
  rcases turn.notes_cases with same | ⟨entry, rest, running, _⟩
  · exact same
  · rw [running] at decided
    cases decided

/-- A turn notes what the task notes. -/
theorem turn (transcribed : Transcribed base first readings session)
    (same : session.phase.outcome = none → tables = base)
    (turn : Turn tables clock session learned next after) :
    Transcribed base first (readings ++ learned) next := by
  cases transcribed with
  | @atWork task remaining sofar =>
      cases same (Phase.outcome_eq_none_of_remaining remaining)
      cases turn.works remaining with
      | stays remaining' _ staged notes =>
          rw [List.append_nil]
          exact .atWork remaining' (by rw [staged, notes]; exact sofar)
      | locks before remaining' _ staged notes =>
          subst before
          rw [List.append_nil]
          exact .atWork remaining' (by rw [staged, notes]; exact sofar)
      | access access =>
          refine .atWork rfl ?_
          intro later
          have noting : task.noting session.notes = session.notes ++ task.noting [] := by
            cases task <;> simp [Task.noting]
          rw [List.append_assoc, sofar, access.transcript_eq]
          simp only [noting, List.append_assoc]
      | lapses lapses decided staged notes =>
          rw [List.append_nil]
          refine .void decided (lapses.ne_completed) ?_
          rw [notes]
          exact isPrefix (.atWork remaining sofar)
      | publishes before decided _ notes =>
          subst before
          rw [List.append_nil]
          exact .completed decided (notes.trans (notes_of_done (.atWork remaining sofar) remaining))
  | completed decided all =>
      obtain ⟨quiet, _, decided', _⟩ := turn.of_decided decided
      rw [quiet, List.append_nil]
      exact .completed decided' ((notes_of_decided turn decided).trans all)
  | void decided incomplete some =>
      obtain ⟨quiet, _, decided', _⟩ := turn.of_decided decided
      rw [quiet, List.append_nil]
      exact .void decided' incomplete ((notes_of_decided turn decided).symm ▸ some)

end Transcribed

namespace World

section Quiet

variable {world after start finish : World ν α} {event : Event ν α} {events : List (Event ν α)}
  {number : Nat}

/-- An insert fault is there only if it was armed. -/
private theorem insert_after? (happened : world.after? event = some after)
    (quiet : ∀ faults, event = .armed faults → faults.insert = false)
    (unarmed : world.faults.insert = false) : after.faults.insert = false := by
  have still : ∀ {next : World ν α}, world.Still next → next.faults.insert = false := by
    intro next still
    cases armed : next.faults.insert with
    | false => rfl
    | true =>
        rw [still.insertFault armed] at unarmed
        cases unarmed
  cases event with
  | called | ticked =>
      cases happened
      exact unarmed
  | advanced number around => exact still (advance_still happened)
  | expired number =>
      obtain ⟨session, _, expired⟩ := Option.bind_eq_some_iff.mp happened
      split at expired
      · exact still (breakOff_decided expired).2
      · cases expired
  | cancelled number => exact still (breakOff_decided happened).2
  | armed faults =>
      cases happened
      simp [World.arm, unarmed, quiet faults rfl]

/-- What a session is told in its next step is no fault that is not armed. -/
private theorem unfailing_toldTo (unarmed : world.faults.insert = false) (number : Nat)
    (event : Event ν α) : Unfailing (world.toldTo number event) := by
  intro reading member
  cases event with
  | advanced other around =>
      rw [toldTo] at member
      split at member
      · rw [learned] at member
        split at member
        · rename_i session _
          cases phase : session.phase with
          | running task =>
              rw [phase, Phase.told] at member
              cases task <;> simp_all [Task.told]
          | _ =>
              rw [phase] at member
              cases member
        · cases member
      · cases member
  | _ => cases member

/-- As long as no insert fault is armed no session is told of one. -/
theorem unfailing_heard (unarmed : start.faults.insert = false)
    (quiet : ∀ faults, .armed faults ∈ events → faults.insert = false)
    (ran : start.run? events = some finish) (number : Nat) :
    Unfailing (start.heard number events) ∧ finish.faults.insert = false := by
  induction leads_of_run? ran with
  | start =>
      refine ⟨?_, unarmed⟩
      intro reading member
      cases member
  | @snoc events world after event before happened inductionHypothesis =>
      have ran' := run?_eq before
      obtain ⟨unfailing, unarmed'⟩ := inductionHypothesis
        (fun faults member => quiet faults (List.mem_append_left _ member)) ran'
      refine ⟨?_, insert_after? happened ?_ unarmed'⟩
      · rw [heard_snoc ran']
        intro reading member
        rcases List.mem_append.mp member with old | new
        · exact unfailing reading old
        · exact unfailing_toldTo unarmed' number event reading new
      · rintro faults rfl
        exact quiet faults (by simp)

end Quiet

section Lone

variable {base : Tables} {first : Task ν α} {context : RequestContext} {number : Nat}
  {readings : List Reading} {world after start finish : World ν α} {events : List (Event ν α)}

/-- The notes of a run that is alone are those of its task. -/
theorem Lone.transcribed (lone : start.Lone base first context number []) (order : start.InOrder)
    (fresh : ∀ session, start.sessions[number]? = some session → Transcribed base first [] session)
    (single : ∀ event ∈ events, event.isCall = false) (ran : start.run? events = some finish) :
    ∀ session, finish.sessions[number]? = some session →
      Transcribed base first (start.heard number events) session := by
  induction leads_of_run? ran with
  | start => exact fresh
  | @snoc events world after event before happened inductionHypothesis =>
      have ran' := run?_eq before
      have single' : ∀ event ∈ events, event.isCall = false := fun event member =>
        single event (List.mem_append_left _ member)
      have before := inductionHypothesis single' ran'
      have lone' := lone.run? order single' ran'
      rw [heard_snoc ran']
      intro session here
      cases after?_happens happened with
      | called _ _ calls =>
          have contrary := single event (by simp)
          subst calls
          cases contrary
      | @turned mover next mover' known sessions turn _ others =>
          have mine : mover' = number := by
            by_cases mine : mover' = number
            · exact mine
            · exact absurd (lone'.others mover' mover mine known) turn.not_isOver
          subst mine
          rcases session_after sessions here with ⟨_, rfl⟩ | ⟨different, _⟩
          · refine (before mover known).turn ?_ turn
            intro undecided
            obtain ⟨own, known', _, progress⟩ := lone'.own
            rw [known] at known'
            cases known'
            cases progress with
            | atWork _ _ same => exact same
            | committed decided | void decided =>
                rw [undecided] at decided
                cases decided
          · exact absurd rfl different
      | aside sessions _ _ _ quiet =>
          rw [quiet, List.append_nil]
          exact before session (sessions ▸ here)

/-- Nobody else stands in line for a lock. -/
private theorem Lone.inLine (lone : world.Lone base first context number readings)
    (order : world.InOrder) {other lock : Nat} (inLine : world.InLine other lock) : other = number := by
  obtain ⟨session, known, id, it⟩ := inLine
  by_cases mine : other = number
  · exact mine
  · obtain ⟨outcome, ended⟩ := lone.others other session mine known
    obtain ⟨free, _⟩ := order.tidy session (List.mem_of_getElem? known) (.inr ⟨outcome, ended⟩)
    rcases it with has | waits
    · rw [free] at has
      cases has
    · rw [ended] at waits
      cases waits

/-- The lock that a run waits for has been given to it if nobody else stands in line. -/
private theorem Lone.holder (lone : world.Lone base first context number readings)
    (order : world.InOrder) {session : Session ν α} (known : world.sessions[number]? = some session)
    {id : AccountId} {lock : Nat} (asked : session.phase.asked = some (id, lock)) :
    ∃ l, world.locks[lock]? = some l ∧ l.holder = some number := by
  obtain ⟨l, here⟩ := order.locks.exists_lock known (.inr (.inr asked))
  have mine : number ∈ l.line := (order.locks.inLine here number).mpr ⟨session, known, id, .inr asked⟩
  refine ⟨l, here, ?_⟩
  cases holder : l.holder with
  | none => simp [RowLock.line, holder, (order.locks.orderly here).idle holder] at mine
  | some other =>
      have inLine := (order.locks.inLine here other).mp (by simp [RowLock.line, holder])
      rw [lone.inLine order inLine]

/-- An access can be made at once, unless the task sleeps. -/
private theorem exists_access (world : World ν α) (number : Nat) (session : Session ν α)
    (around : Surroundings) (task : Task ν α) :
    (∃ millis rest, task = .sleep millis rest ∧ world.clock < session.since + millis) ∨
      ∃ next, world.access number session around task = some next := by
  cases task with
  | sleep millis rest =>
      simp only [access]
      split
      · rename_i asleep
        exact .inl ⟨millis, rest, rfl, asleep⟩
      · exact .inr ⟨_, rfl⟩
  | lockRow id next =>
      simp only [access]
      split
      · exact .inr ⟨_, rfl⟩
      · exact .inr ⟨_, rfl⟩
  | _ => exact .inr ⟨_, rfl⟩

/-- A run that is alone never waits for another: once it has begun it can always take its next step, unless
it sleeps, until it is over. -/
theorem Lone.advances (lone : world.Lone base first context number readings) (order : world.InOrder)
    {session : Session ν α} (known : world.sessions[number]? = some session)
    (begun : session.phase.isOpening = false) (going : ¬session.IsOver) (around : Surroundings) :
    (∃ millis rest, session.phase = .running (.sleep millis rest) ∧
      world.clock < session.since + millis) ∨
        ∃ next, world.advance number around = some next := by
  have step : ∀ {result : Option (World ν α)}, world.advance number around = result →
      (∃ next, result = some next) → ∃ next, world.advance number around = some next := by
    rintro _ rfl exists_next
    exact exists_next
  cases phase : session.phase with
  | opening start task =>
      rw [phase] at begun
      cases begun
  | running task =>
      rcases exists_access world number session around task with ⟨millis, rest, rfl, asleep⟩ | steps
      · exact .inl ⟨millis, rest, rfl, asleep⟩
      · refine .inr (step ?_ steps)
        simp [advance, known, phase]
  | waiting id lock next =>
      obtain ⟨l, here, holder⟩ := lone.holder order known (by rw [phase]; rfl)
      obtain ⟨given, queue⟩ := l
      cases holder
      right
      simp [advance, known, phase, here]
  | acquiring id lock next =>
      right
      simp only [advance, known, Option.bind_eq_bind, Option.bind_some, phase]
      split
      · exact ⟨_, rfl⟩
      · exact ⟨_, rfl⟩
  | closing result =>
      right
      cases result with
      | error e => simp [advance, known, phase]
      | ok value =>
          simp only [advance, known, Option.bind_eq_bind, Option.bind_some, phase]
          split
          · exact ⟨_, rfl⟩
          · exact ⟨_, rfl⟩
  | committing value =>
      right
      simp only [advance, known, Option.bind_eq_bind, Option.bind_some, phase]
      split
      · exact ⟨_, rfl⟩
      · exact ⟨_, rfl⟩
  | publishing value =>
      right
      simp [advance, known, phase]
  | releasing outcome =>
      right
      simp only [advance, known, Option.bind_eq_bind, Option.bind_some, phase]
      split
      · exact ⟨_, rfl⟩
      · exact ⟨_, rfl⟩
  | finished outcome => exact absurd ⟨outcome, phase⟩ going

end Lone

/-! ### A run on a copy -/

/-- A run on a store on which no other is under way does what a run on a copy of the tables does.  At any time
the notes it has made, and among them all answers to its calls, are those of the run on the copy, given what it
has been told so far; when its work has come to a result it is the result there, and what is staged makes the
committed tables the copy; and when it has completed the committed tables are the copy.  It never has to
wait but for what it sleeps.  A call that fails leaves the copy as it is. -/
theorem run_refines_copy {start finish : World (ν ⊕ Exchange) α} (idle : start.Idle)
    (unarmed : start.faults.insert = false) (context : RequestContext) (opening : Nat) (work : Work ν α)
    {events : List (Event (ν ⊕ Exchange) α)} (single : ∀ event ∈ events, event.isCall = false)
    (unfailing : ∀ faults, .armed faults ∈ events → faults.insert = false)
    (ran : (start.call context opening work.recorded).run? events = some finish) :
    ∃ session report, finish.sessions[start.sessions.length]? = some session ∧
      report = work.onCopy start.tables
        (((start.call context opening work.recorded).heard start.sessions.length events).filter
          Reading.isTold) ∧
      session.notes <+: report.notes ∧
      (∀ result, session.phase.remaining = some (.done result) →
        session.notes = report.notes ∧
          report.ending = some (.ofResult result, start.tables.extend session.staged)) ∧
      (∀ value, session.phase.outcome = some (.completed value) →
        session.notes = report.notes ∧ report.ending = some (.completed value, finish.tables)) ∧
      (session.phase.isOpening = false → ¬session.IsOver → ∀ around,
        (∃ millis rest, session.phase = .running (.sleep millis rest) ∧
          finish.clock < session.since + millis) ∨
            ∃ next, finish.advance start.sessions.length around = some next) ∧
      ∀ (call : Store.Call) (copy : Tables) (now : Timestamp) (e : LedgerError),
        (call.direct copy now).1 = .error e → (call.direct copy now).2 = copy := by
  have order : (start.call context opening work.recorded).InOrder :=
    idle.inOrder.call context opening work.recorded
  have lone := Lone.call idle context opening work.recorded
  have lone' := lone.run? order single ran
  have unarmed' : (start.call context opening work.recorded).faults.insert = false := unarmed
  have unfailing' := (unfailing_heard unarmed' unfailing ran start.sessions.length).1
  obtain ⟨session, known, _, progress⟩ := lone'.own
  have fresh : ∀ session, (start.call context opening work.recorded).sessions[start.sessions.length]? =
      some session → Transcribed start.tables work.recorded.task [] session := by
    intro session here
    rcases session_added rfl here with there | ⟨_, rfl⟩
    · simp at there
    · exact .atWork rfl fun rest => rfl
  have transcribed := lone.transcribed order fresh single ran session known
  have follows := Follows.onCopy work .empty _ Tables.DistinctRows.empty (Tables.Apart.empty start.tables)
    unfailing'
  rw [Tables.extend_empty] at follows
  refine ⟨session, _, known, rfl, transcribed.isPrefix.trans follows.sofar, ?_, ?_,
    fun begun going around => lone'.advances (order.run? ran) known begun going around,
    fun call copy now e failed => Store.Call.direct_snd_of_error failed⟩
  · intro result remaining
    obtain ⟨same, ending⟩ := follows.ended _ _ (progress.execute_of_done remaining)
    exact ⟨(transcribed.notes_of_done remaining).trans same, ending⟩
  · intro value completed
    obtain ⟨written, _, executed, published⟩ := progress.of_completed completed
    obtain ⟨same, ending⟩ := follows.ended _ _ executed
    rw [published]
    exact ⟨(transcribed.notes_of_completed completed).trans same, ending⟩

def euros : Account := .opened ⟨Uuid.ofNat 1⟩ ⟨Uuid.ofNat 2⟩ .eur ⟨0, 0⟩

def euroEntry (id : Nat) (user : UserId) : LedgerEntry :=
  { id := ⟨Uuid.ofNat id⟩, account := euros.id, user := user, amount := euros.balance, balance := euros.balance
    source := .internal, conversion := none, maskedTarget := none, createdAt := ⟨0, 0⟩ }

/-- The account is opened and gets three entries, one of them for another user, and a second one with an identifier
that is taken.  Then its history is asked for. -/
def euroWork : Work Empty Unit :=
  .call (.createAccount euros) fun _ => .call (.createEntry (euroEntry 7 euros.owner)) fun _ =>
    .call (.createEntry (euroEntry 8 ⟨Uuid.ofNat 9⟩)) fun _ =>
      .call (.createEntry (euroEntry 10 euros.owner)) fun _ =>
        .call (.createEntry (euroEntry 10 euros.owner)) fun _ =>
          .call (.history euros.owner euros.id) fun _ => .done (.ok ())

/-- The work goes on step by step to its end. -/
def euroSteps : List (Event (Empty ⊕ Exchange) Unit) :=
  List.replicate 33 (.advanced 0 ⟨⟨0, 0⟩, Uuid.ofNat 3, fun _ _ => .error .outOfRange⟩)

def euroStart : World (Empty ⊕ Exchange) Unit :=
  (empty : World (Empty ⊕ Exchange) Unit).call (.ofUser euros.owner) 0 euroWork.recorded

/-- All calls are answered on the store as on the copy, and of the entries the one whose identifier was taken is not
recorded.  The history of the owner holds their two entries, the later one first. -/
theorem run_refines_copy_entry :
    ∃ finish session, euroStart.run? euroSteps = some finish ∧ finish.sessions[0]? = some session ∧
      session.phase = .finished (.completed ()) ∧ session.notes.length = 6 ∧
      session.notes.getLast? = some
        (.inr ⟨.history euros.owner euros.id, .ok [euroEntry 10 euros.owner, euroEntry 7 euros.owner]⟩) ∧
      finish.tables.entryIds = [⟨Uuid.ofNat 7⟩, ⟨Uuid.ofNat 8⟩, ⟨Uuid.ofNat 10⟩] ∧
      ∃ report, report = euroWork.onCopy .empty ((euroStart.heard 0 euroSteps).filter Reading.isTold) ∧
        session.notes = report.notes ∧ report.ending = some (.completed (), finish.tables) := by
  have idle : (empty : World (Empty ⊕ Exchange) Unit).Idle := by
    refine ⟨⟨.empty, [], rfl⟩, ?_⟩
    intro session member
    cases member
  have single : ∀ event ∈ euroSteps, event.isCall = false := by
    intro event member
    rw [List.eq_of_mem_replicate member]
    rfl
  have unfailing : ∀ faults, Event.armed faults ∈ euroSteps → faults.insert = false := by
    intro faults member
    have same : Event.armed faults = .advanced 0 _ := List.eq_of_mem_replicate member
    cases same
  have ends : (euroStart.run? euroSteps).map (fun finish =>
      (finish.sessions[0]?.map fun session =>
        (session.phase.ending, session.notes.length, session.notes.getLast?), finish.tables.entryIds)) =
      some (some (some (.completed ()), 6, some
        (.inr ⟨.history euros.owner euros.id, .ok [euroEntry 10 euros.owner, euroEntry 7 euros.owner]⟩)),
        [⟨Uuid.ofNat 7⟩, ⟨Uuid.ofNat 8⟩, ⟨Uuid.ofNat 10⟩]) := rfl
  obtain ⟨finish, ran, same⟩ := Option.map_eq_some_iff.mp ends
  obtain ⟨same, ids⟩ := Prod.mk.inj same
  obtain ⟨session, known, same⟩ := Option.map_eq_some_iff.mp same
  obtain ⟨ending, noted⟩ := Prod.mk.inj same
  obtain ⟨count, last⟩ := Prod.mk.inj noted
  have ended := Phase.ending_eq_some_iff.mp ending
  obtain ⟨session', report, known', reported, _, _, completes, _⟩ :=
    run_refines_copy idle rfl (.ofUser euros.owner) 0 euroWork single unfailing ran
  have own : finish.sessions[0]? = some session' := known'
  rw [known] at own
  cases own
  obtain ⟨notes, finished⟩ := completes () (by rw [ended]; rfl)
  exact ⟨finish, session, ran, known, ended, count, last, ids, report, reported, notes, finished⟩

end World

end Passbook.Session

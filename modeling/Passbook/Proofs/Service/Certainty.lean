import Passbook.Proofs.Service.Acceptance
import Passbook.Proofs.Service.Course
/-!
# Nothing fails after acceptance

A movement whose credit or debit has succeeded comes to an entry.  Its session has locked the row of the account, so
the row stays as it was found whatever the others do, and the identifier of its entry was handed out to nobody else.
The only thing that can hit it is a fault that was armed for its entry; apart from that it can be broken off, or be
too late, but it cannot fail.
-/

namespace Passbook

open Session (Reading Outcome Task Turn Footprint)
open Store (Tables)

namespace Service

namespace Chronicle

variable {chronicle next : Chronicle} {start : Tables} {log : List (Nat × Outcome Answer)} {number : Nat}
  {session : Session.Session Empty Answer} {event : Event}

/-! ### Acceptance in a chronicle -/

/-- A movement was accepted and its work is not done yet: what its session has been told begins with what leads it, by
the row of the account as it is committed now, to the success of its credit or debit. -/
structure Accepted (chronicle : Chronicle) (number : Nat) (user : UserId) (direction : Direction)
    (request : MovementRequest) (acceptance : Acceptance) : Prop where
  called : chronicle.calls[number]? = some (user, .move direction request)
  atWork : ∃ session task, chronicle.world.sessions[number]? = some session ∧ session.phase.remaining = some task
  reached : ∃ earlier later, chronicle.readingsOf number = earlier ++ later ∧
    (acceptWork user direction request : Session.Work Empty Acceptance).task.LeadsTo chronicle.world.tables
      (.row request.account) earlier (.done (.ok acceptance)) .empty

variable {direction : Direction} {request : MovementRequest} {acceptance : Acceptance} {task : Task Empty Answer}

/-- A movement is accepted first, and what comes of that is booked then. -/
theorem move_task_eq (defaultCurrency : Currency) (user : UserId) (direction : Direction) (request : MovementRequest) :
    (Operation.move direction request).task defaultCurrency user =
      (acceptWork user direction request).task.andThen fun acceptance =>
        (Answer.entry <$> bookWork user direction request acceptance).task := by
  rw [← Session.Work.task_bind]
  change (Answer.entry <$> moveWork user direction request).task = _
  rw [moveWork_eq]
  exact congrArg Session.Work.task (Session.Work.bind_assoc _ _ _)

namespace Accepted

variable (accepted : chronicle.Accepted number user direction request acceptance)
include accepted

theorem restsOn : acceptance.RestsOn chronicle.world.tables user direction request := by
  obtain ⟨earlier, later, _, led⟩ := accepted.reached
  exact acceptWork_restsOn led.execute_done

/-- Whoever was accepted has locked the row of the account. -/
theorem holds (poised : chronicle.Poised) (known : chronicle.world.sessions[number]? = some session)
    (remaining : session.phase.remaining = some task) : session.Holds request.account := by
  have led := poised number session task user _ known remaining accepted.called rfl
  obtain ⟨earlier, later, told, accepts⟩ := accepted.reached
  obtain ⟨_, _, ⟨contrary, _⟩ | ⟨⟨time, heard⟩, _⟩⟩ := (acceptWork_tentative user direction request).leadsTo accepts
  · exact contrary.elim
  · refine led.rows_of_told ?_
    rw [told]
    exact List.ne_nil_of_mem (List.mem_append_left later heard)

/-- Nothing that remains to be done can fail. -/
theorem unfailing (logged : Logged .empty chronicle log) (distinct : chronicle.freshIds.Nodup) :
    acceptance.Unfailing chronicle.world.tables user request (drawn (chronicle.readingsOf number)) := by
  obtain ⟨session, task, known, remaining⟩ := accepted.atWork
  refine accepted.restsOn.unfailing fun id mine => ?_
  rw [Tables.entry?_eq_none_iff]
  intro taken
  obtain ⟨other, member, theirs⟩ := logged.serially.exists_drawn taken
  have same := number_eq_of_drawn distinct mine theirs
  exact (logged.underway known remaining accepted.called rfl).1 (same ▸ member)

/-- What remains of the task of a movement that was accepted comes to an entry, unless it was hit by a fault. -/
theorem execute (logged : Logged .empty chronicle log) (distinct : chronicle.freshIds.Nodup)
    (poised : chronicle.Poised) (known : chronicle.world.sessions[number]? = some session)
    (remaining : session.phase.remaining = some task) {outcome : Outcome Answer} {written : Tables}
    (executed : task.execute chronicle.world.tables session.staged [] = some (outcome, written)) :
    (∃ entry, outcome = .completed (.entry entry)) ∨
      outcome = .failed (Store.injected "transaction insert") ∧ .insertFault true ∈ chronicle.readingsOf number := by
  have led := poised number session task user _ known remaining accepted.called rfl
  obtain ⟨earlier, later, told, accepts⟩ := accepted.reached
  have carried := led.execute_eq []
  rw [List.append_nil, executed, move_task_eq, told, Task.execute_andThen _ later accepts.execute_done] at carried
  have handedOut : ∀ id, .newId id ∈ later → drawn (chronicle.readingsOf number) id := by
    intro id heard
    rw [told]
    exact List.mem_append_right earlier heard
  refine ((accepted.unfailing logged distinct).execute handedOut carried).imp_right fun ⟨hit, heard⟩ => ⟨hit, ?_⟩
  rw [told]
  exact List.mem_append_right earlier heard

/-- A movement that was accepted does not break down. -/
theorem ne_panic (logged : Logged .empty chronicle log) (distinct : chronicle.freshIds.Nodup)
    (poised : chronicle.Poised) (known : chronicle.world.sessions[number]? = some session)
    (remaining : session.phase.remaining = some task) (text : String) : task ≠ .panic text := by
  rintro rfl
  rcases accepted.execute logged distinct poised known remaining rfl with ⟨entry, contrary⟩ | ⟨contrary, _⟩
  · cases contrary
  · cases contrary

/-- If it comes to an error, that is the fault that was armed for its entry. -/
theorem eq_injected (logged : Logged .empty chronicle log) (distinct : chronicle.freshIds.Nodup)
    (poised : chronicle.Poised) (known : chronicle.world.sessions[number]? = some session) {e : LedgerError}
    (remaining : session.phase.remaining = some (.done (.error e))) :
    e = Store.injected "transaction insert" ∧ .insertFault true ∈ chronicle.readingsOf number := by
  rcases accepted.execute logged distinct poised known remaining rfl with ⟨entry, contrary⟩ | ⟨hit, heard⟩
  · cases contrary
  · cases hit
    exact ⟨rfl, heard⟩

end Accepted

/-- How a movement can end that was accepted: with its entry, or broken off; and with the fault of its entry only if it
was armed. -/
def Concludes (chronicle : Chronicle) (number : Nat) (outcome : Outcome Answer) : Prop :=
  (∃ entry, outcome = .completed (.entry entry)) ∨
    outcome.BrokenOff ∧ (outcome = .failed (Store.injected "transaction insert") →
      .insertFault true ∈ chronicle.readingsOf number)

/-- The outcome of a movement is decided, and it has not failed. -/
def Concluded (chronicle : Chronicle) (number : Nat) : Prop :=
  ∃ session outcome, chronicle.world.sessions[number]? = some session ∧ session.phase.outcome = some outcome ∧
    chronicle.Concludes number outcome

/-- What a session was told it has been told for good. -/
theorem Concludes.mono {outcome : Outcome Answer} (concludes : chronicle.Concludes number outcome)
    (told : chronicle.readingsOf number ⊆ next.readingsOf number) : next.Concludes number outcome :=
  concludes.imp_right fun ⟨off, heard⟩ => ⟨off, fun hit => told (heard hit)⟩

/-- A session whose outcome a turn has decided has lapsed or has published what it came to. -/
private theorem decided_cases {clock : Nat} {learned : List Reading} {later : Session.Session Empty Answer}
    {outcome : Outcome Answer} (turn : Turn tables clock session learned later after)
    (remaining : session.phase.remaining = some task) (decided : later.phase.outcome = some outcome) :
    Session.Lapses task outcome ∨ ∃ answer, task = .done (.ok answer) ∧ outcome = .completed answer := by
  cases turn.works remaining with
  | stays remaining' | locks _ remaining' =>
      rw [Session.Phase.outcome_eq_none_of_remaining remaining'] at decided
      cases decided
  | access => cases decided
  | lapses lapses decided' =>
      rw [decided] at decided'
      cases decided'
      exact .inl lapses
  | publishes before decided' =>
      rw [decided] at decided'
      cases decided'
      exact .inr ⟨_, before, rfl⟩

/-- A fault is injected where it says. -/
private theorem injected_inj {place other : String} (same : Store.injected place = Store.injected other) :
    place = other := by
  rw [injected_eq, injected_eq] at same
  cases same
  rfl

/-- When the outcome of a movement that was accepted is decided, it has not failed. -/
theorem Accepted.concludes (accepted : chronicle.Accepted number user direction request acceptance)
    (logged : Logged .empty chronicle log) (distinct : chronicle.freshIds.Nodup) (poised : chronicle.Poised)
    (known : chronicle.world.sessions[number]? = some session) (remaining : session.phase.remaining = some task)
    {outcome : Outcome Answer}
    (ends : Session.Lapses task outcome ∨ ∃ answer, task = .done (.ok answer) ∧ outcome = .completed answer) :
    chronicle.Concludes number outcome := by
  rcases ends with lapses | ⟨answer, rfl, rfl⟩
  · cases lapses with
    | refused e =>
        obtain ⟨rfl, heard⟩ := accepted.eq_injected logged distinct poised known remaining
        exact .inr ⟨.inr (.inr ⟨_, rfl⟩), fun _ => heard⟩
    | brokeDown text => exact absurd rfl (accepted.ne_panic logged distinct poised known remaining text)
    | begin =>
        refine .inr ⟨.inr (.inr ⟨_, rfl⟩), fun same => ?_⟩
        have contrary := injected_inj (Outcome.failed.inj same)
        simp at contrary
    | commit =>
        refine .inr ⟨.inr (.inr ⟨_, rfl⟩), fun same => ?_⟩
        have contrary := injected_inj (Outcome.failed.inj same)
        simp at contrary
    | overdue =>
        refine .inr ⟨.inr (.inl rfl), fun same => ?_⟩
        have contrary := Outcome.failed.inj same
        rw [injected_eq] at contrary
        cases contrary
    | cancelled => exact .inr ⟨.inl rfl, nofun⟩
  · rcases accepted.execute logged distinct poised known remaining rfl with completed | ⟨contrary, _⟩
    · exact .inl completed
    · cases contrary

/-- Every event leaves a movement accepted, or its outcome is decided and it has not failed. -/
theorem Accepted.after? (accepted : chronicle.Accepted number user direction request acceptance)
    (logged : Logged .empty chronicle log) (distinct : chronicle.freshIds.Nodup) (poised : chronicle.Poised)
    (happened : chronicle.after? event = some next) :
    next.Accepted number user direction request acceptance ∨ next.Concluded number := by
  obtain ⟨session, task, known, remaining⟩ := accepted.atWork
  obtain ⟨earlier, later, told, led⟩ := accepted.reached
  have called := called_after? happened accepted.called
  cases logged.befalls distinct happened known with
  | rest known' readings agree =>
      have holds := accepted.holds poised known remaining
      refine .inl ⟨called, ⟨session, task, known', remaining⟩, earlier, later, readings.trans told, ?_⟩
      refine led.congr ⟨?_, fun _ => False.elim, False.elim⟩
      rintro id rfl
      exact agree.rows _ holds
  | @turn session' learned known' turn readings =>
      cases remaining' : session'.phase.remaining with
      | some task' =>
          have within := logged.within known remaining accepted.called rfl
          have unchanged := (leadsTo_turn turn remaining remaining' within
            (poised number session task user _ known remaining accepted.called rfl)).1
          refine .inl ⟨called, ⟨session', task', known', remaining'⟩, earlier, later ++ learned, ?_, ?_⟩
          · rw [readings, told, List.append_assoc]
          · rwa [unchanged]
      | none =>
          obtain ⟨outcome, decided⟩ := Session.Phase.remaining_eq_none_iff.mp remaining'
          have concludes := accepted.concludes logged distinct poised known remaining
            (decided_cases turn remaining decided)
          refine .inr ⟨session', outcome, known', decided, concludes.mono ?_⟩
          rw [readings]
          exact List.subset_append_left _ _

/-- What a movement has concluded with stays so. -/
theorem Concluded.after? (concluded : chronicle.Concluded number) (logged : Logged start chronicle log)
    (distinct : chronicle.freshIds.Nodup) (happened : chronicle.after? event = some next) :
    next.Concluded number := by
  obtain ⟨session, outcome, known, decided, concludes⟩ := concluded
  cases logged.befalls distinct happened known with
  | rest known' readings =>
      refine ⟨session, outcome, known', decided, concludes.mono ?_⟩
      rw [readings]
      exact List.Subset.refl _
  | @turn later learned known' turn readings =>
      refine ⟨later, outcome, known', turn.outcome_eq decided, concludes.mono ?_⟩
      rw [readings]
      exact List.subset_append_left _ _

/-- There is a log on a store that has begun empty, and all operations at work are where they could have been led right
now. -/
def Traced (chronicle : Chronicle) : Prop :=
  (∃ log, Logged .empty chronicle log) ∧ chronicle.Poised

theorem Traced.after? (traced : chronicle.Traced) (distinct : next.freshIds.Nodup)
    (happened : chronicle.after? event = some next) : next.Traced := by
  obtain ⟨⟨log, logged⟩, poised⟩ := traced
  have distinct' := nodup_freshIds_before happened distinct
  obtain ⟨more, logged'⟩ := logged.after? distinct' happened
  exact ⟨⟨_, logged'⟩, poised.after? logged distinct' happened⟩

/-- So it is in every state that operations side by side can lead to on a store that has begun empty. -/
theorem traced_of_run? {defaultCurrency : Currency} {events : List Event}
    (ran : (Chronicle.start defaultCurrency .empty).run? events = some chronicle)
    (distinct : chronicle.freshIds.Nodup) : chronicle.Traced := by
  refine (Leads.of_foldlM ran).invariant (motive := fun chronicle => chronicle.freshIds.Nodup → chronicle.Traced)
    (fun _ => ⟨⟨[], .of_start defaultCurrency .empty⟩, poised_start defaultCurrency .empty⟩) ?_ distinct
  intro chronicle next event before happened distinct
  exact (before (nodup_freshIds_before happened distinct)).after? distinct happened

/-- Whatever happens after a movement was accepted, it stays accepted until its outcome is decided, and it does not
fail. -/
theorem Accepted.run? {later : List Event} {finish : Chronicle}
    (accepted : chronicle.Accepted number user direction request acceptance) (traced : chronicle.Traced)
    (ran : chronicle.run? later = some finish) (distinct : finish.freshIds.Nodup) :
    finish.Accepted number user direction request acceptance ∨ finish.Concluded number := by
  suffices all : finish.freshIds.Nodup → finish.Traced ∧
      (finish.Accepted number user direction request acceptance ∨ finish.Concluded number) from (all distinct).2
  refine (Leads.of_foldlM ran).invariant
    (motive := fun chronicle => chronicle.freshIds.Nodup → chronicle.Traced ∧
      (chronicle.Accepted number user direction request acceptance ∨ chronicle.Concluded number))
    (fun _ => ⟨traced, .inl accepted⟩) ?_
  intro chronicle next event before happened distinct
  have distinct' := nodup_freshIds_before happened distinct
  obtain ⟨traced', either⟩ := before distinct'
  refine ⟨traced'.after? distinct happened, ?_⟩
  obtain ⟨⟨log, logged⟩, poised⟩ := traced'
  rcases either with accepted | concluded
  · exact accepted.after? logged distinct' poised happened
  · exact .inr (concluded.after? logged distinct' happened)

/-- As soon as a movement is told the time its credit or debit is tried: it is accepted then, or its work is done with
an error and has staged nothing. -/
theorem accepted_or_refused {defaultCurrency : Currency} {events : List Event}
    (reached : (Chronicle.start defaultCurrency .empty).run? events = some chronicle)
    (distinct : chronicle.freshIds.Nodup)
    (called : chronicle.calls[number]? = some (user, .move direction request))
    (known : chronicle.world.sessions[number]? = some session) (remaining : session.phase.remaining = some task)
    {time : Timestamp} (told : .now time ∈ chronicle.readingsOf number) :
    (∃ acceptance, chronicle.Accepted number user direction request acceptance) ∨
      (∃ e, task = .done (.error e)) ∧ session.staged = .empty := by
  obtain ⟨_, poised⟩ := traced_of_run? reached distinct
  have led := poised number session task user _ known remaining called rfl
  rw [move_task_eq] at led
  have tentative := acceptWork_tentative (ν := Empty) user direction request
  rcases led.andThen_cases with ⟨rest, begun, rfl, unaccepted⟩ | ⟨acceptance, earlier, later, written, split, accepts⟩
  · obtain ⟨_, nothing, ⟨_, untold⟩ | ⟨_, result, rfl⟩⟩ := tentative.leadsTo begun
    · exact absurd told (untold time)
    · cases result with
      | ok acceptance => exact absurd rfl (unaccepted acceptance)
      | error e => exact .inr ⟨⟨e, rfl⟩, nothing⟩
  · obtain ⟨accepts, rfl, _⟩ := tentative.leadsTo accepts
    exact .inl ⟨acceptance, called, ⟨session, task, known, remaining⟩, earlier, later, split, accepts⟩

/-- In every state that operations side by side can lead to on a store that has begun empty, and in every state after
it, nothing that remains to be done of a movement can fail once its credit or debit has succeeded, which is decided when
it is told the time (`accepted_or_refused`).  As long as its work goes on,

* it stays accepted, with the same outcome of its credit or debit;
* its amount can be negated and entered, the row of its account can be written, its entry refers to an account that is
  there, and no entry has the identifier that was handed out to it;
* it does not break down, and comes to no error but the fault that was armed for its entry.

When its outcome is decided it is its entry, or the run was broken off. -/
theorem accepted_never_fails {defaultCurrency : Currency} {events later : List Event} {mid finish : Chronicle}
    (reached : (Chronicle.start defaultCurrency .empty).run? events = some mid) (ran : mid.run? later = some finish)
    (distinct : finish.freshIds.Nodup) (accepted : mid.Accepted number user direction request acceptance) :
    ∃ session, finish.world.sessions[number]? = some session ∧
      (∀ task, session.phase.remaining = some task →
        finish.Accepted number user direction request acceptance ∧
        acceptance.Unfailing finish.world.tables user request (drawn (finish.readingsOf number)) ∧
        (∀ text, task ≠ .panic text) ∧
        ∀ e, task = .done (.error e) →
          e = Store.injected "transaction insert" ∧ .insertFault true ∈ finish.readingsOf number) ∧
      ∀ outcome, session.phase.outcome = some outcome → finish.Concludes number outcome := by
  have all : (Chronicle.start defaultCurrency .empty).run? (events ++ later) = some finish := by
    rw [run?_append, reached, Option.bind_some, ran]
  obtain ⟨⟨log, logged⟩, poised⟩ := traced_of_run? all distinct
  have traced := traced_of_run? reached (nodup_freshIds_of_run? ran distinct)
  rcases accepted.run? traced ran distinct with accepted | ⟨session, outcome, known, decided, concludes⟩
  · obtain ⟨session, task, known, remaining⟩ := accepted.atWork
    refine ⟨session, known, ?_, ?_⟩
    · intro task' remaining'
      refine ⟨accepted, accepted.unfailing logged distinct, ?_, ?_⟩
      · exact accepted.ne_panic logged distinct poised known remaining'
      · rintro e rfl
        exact accepted.eq_injected logged distinct poised known remaining'
    · intro outcome decided
      rw [Session.Phase.remaining_of_outcome decided] at remaining
      cases remaining
  · refine ⟨session, known, ?_, ?_⟩
    · intro task remaining
      rw [Session.Phase.remaining_of_outcome decided] at remaining
      cases remaining
    · intro outcome' decided'
      rw [decided] at decided'
      cases decided'
      exact concludes

def twentyCents : MovementRequest := .internal ⟨Uuid.ofNat 2⟩ (.exact ⟨20, .eur, by decide, by decide⟩)

/-- Fifty cents are put into an account, and a withdrawal of twenty is told the time. -/
def withdrawal : List Event :=
  let context := RequestContext.ofUser ⟨Uuid.ofNat 1⟩
  let fiftyCents : MovementRequest := .internal ⟨Uuid.ofNat 2⟩ (.exact ⟨50, .eur, by decide, by decide⟩)
  let step (number : Nat) : Event :=
    .advanced number ⟨⟨0, 0⟩, Uuid.ofNat (number + 2), fun _ _ => .error .outOfRange⟩
  [.called context (.openAccount none)] ++ List.replicate 13 (step 0) ++
    [.called context (.move .credit fiftyCents)] ++ List.replicate 19 (step 1) ++
      [.called context (.move .debit twentyCents)] ++ List.replicate 5 (step 2)

/-- The account is to be closed then and waits for the withdrawal, which writes the account. -/
def withdrawalGoesOn : List Event :=
  let step (number : Nat) : Event :=
    .advanced number ⟨⟨0, 0⟩, Uuid.ofNat (number + 2), fun _ _ => .error .outOfRange⟩
  [.called (RequestContext.ofUser ⟨Uuid.ofNat 1⟩) (.closeAccount ⟨Uuid.ofNat 2⟩)] ++ List.replicate 3 (step 3) ++
    List.replicate 3 (step 2)

/-- The withdrawal is accepted, and when it has written the account nothing that remains to be done of it can fail. -/
theorem accepted_never_fails_withdrawal :
    ∃ mid finish acceptance, (Chronicle.start .eur .empty).run? withdrawal = some mid ∧
      mid.run? withdrawalGoesOn = some finish ∧ finish.freshIds.Nodup ∧
        mid.Accepted 2 ⟨Uuid.ofNat 1⟩ .debit twentyCents acceptance ∧
          finish.Accepted 2 ⟨Uuid.ofNat 1⟩ .debit twentyCents acceptance ∧
            acceptance.Unfailing finish.world.tables ⟨Uuid.ofNat 1⟩ twentyCents (drawn (finish.readingsOf 2)) ∧
              (finish.world.sessions[2]?).map (·.staged.accounts.map (·.balance.amount)) = some [30] := by
  have ids : ((Chronicle.start .eur .empty).run? (withdrawal ++ withdrawalGoesOn)).map (·.freshIds) =
      some [Uuid.ofNat 2, Uuid.ofNat 3] := by
    rfl
  have calls : ((Chronicle.start .eur .empty).run? withdrawal).map (·.calls[2]?) =
      some (some (⟨Uuid.ofNat 1⟩, .move .debit twentyCents)) := by
    rfl
  have heard : ((Chronicle.start .eur .empty).run? withdrawal).map (·.readingsOf 2) = some [.now ⟨0, 0⟩] := by
    rfl
  have undone : (((Chronicle.start .eur .empty).run? withdrawal).bind (·.world.sessions[2]?)).map
      (·.phase.remaining.map (·.result?.isNone)) = some (some true) := by
    rfl
  have written : (((Chronicle.start .eur .empty).run? (withdrawal ++ withdrawalGoesOn)).bind
      (·.world.sessions[2]?)).map (fun session =>
        (session.phase.remaining.isSome, session.staged.accounts.map (·.balance.amount))) = some (true, [30]) := by
    rfl
  obtain ⟨finish, all, drawn⟩ := Option.map_eq_some_iff.mp ids
  have distinct : finish.freshIds.Nodup := drawn ▸ by decide
  rw [all, Option.bind_some] at written
  rw [run?_append] at all
  obtain ⟨mid, reached, ran⟩ := Option.bind_eq_some_iff.mp all
  rw [reached] at calls heard undone
  obtain ⟨session, known, undone⟩ := Option.map_eq_some_iff.mp undone
  obtain ⟨task, remaining, undone⟩ := Option.map_eq_some_iff.mp undone
  have heard : mid.readingsOf 2 = [.now ⟨0, 0⟩] := Option.some.inj heard
  have told : .now ⟨0, 0⟩ ∈ mid.readingsOf 2 := heard ▸ List.mem_singleton_self _
  have accepted : ∃ acceptance, mid.Accepted 2 ⟨Uuid.ofNat 1⟩ .debit twentyCents acceptance := by
    rcases accepted_or_refused reached (nodup_freshIds_of_run? ran distinct) (Option.some.inj calls) known remaining
      told with accepted | ⟨⟨e, rfl⟩, _⟩
    · exact accepted
    · cases undone
  obtain ⟨acceptance, accepted⟩ := accepted
  obtain ⟨later, known', goesOn, _⟩ := accepted_never_fails reached ran distinct accepted
  obtain ⟨_, here, written⟩ := Option.map_eq_some_iff.mp written
  rw [known'] at here
  cases here
  obtain ⟨working, balances⟩ := Prod.mk.inj written
  obtain ⟨task', remaining'⟩ := Option.isSome_iff_exists.mp working
  obtain ⟨accepted', unfailing, _⟩ := goesOn task' remaining'
  refine ⟨mid, finish, acceptance, reached, ran, distinct, accepted, accepted', unfailing, ?_⟩
  rw [known', Option.map_some, balances]

end Chronicle

end Service

end Passbook

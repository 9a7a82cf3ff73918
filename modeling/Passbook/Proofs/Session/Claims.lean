import Passbook.Proofs.Session.Turn
/-!
# Claims to identifiers

A session adds an entry only after it has found its identifier free, among the committed entries and those that
it has added itself.  From then on it claims the identifier, until it commits or is broken off.
-/

namespace Passbook.Session

open Store (Tables)

variable {ν α : Type}

/-! ### Entries are added after a look -/

/-- A task adds no entry but right after it has found the identifier of the entry free; it may have found one
free just now. -/
def Task.ChecksFirst : Task ν α → Option TransactionId → Prop
  | .done _, _ | .panic _, _ => True
  | .lockRow _ next, _ => next.ChecksFirst none
  | .readAccount _ next, _ => ∀ row, (next row).ChecksFirst none
  | .readEntry id next, _ => ∀ row : Option LedgerEntry,
      (next row).ChecksFirst (if row = none then some id else none)
  | .readHistory _ _ next, _ => ∀ entries, (next entries).ChecksFirst none
  | .takeInsertFault next, _ => ∀ armed, (next armed).ChecksFirst none
  | .putAccount _ next, _ => next.ChecksFirst none
  | .addEntry entry next, free => free = some entry.id ∧ next.ChecksFirst none
  | .now next, _ => ∀ time, (next time).ChecksFirst none
  | .newId next, _ => ∀ id, (next id).ChecksFirst none
  | .convert _ _ next, _ => ∀ answer, (next answer).ChecksFirst none
  | .sleep _ next, _ => next.ChecksFirst none
  | .note _ next, _ => next.ChecksFirst none

/-- What adds no entry without a look adds none after a look either. -/
theorem Task.ChecksFirst.weaken {task : Task ν α} (checks : task.ChecksFirst none)
    (free : Option TransactionId) : task.ChecksFirst free := by
  cases task with
  | addEntry entry next => cases checks.1
  | _ => exact checks

/-- The next access of the task is to add an entry with this identifier. -/
def Task.Adds (id : TransactionId) : Task ν α → Prop
  | .addEntry entry _ => entry.id = id
  | _ => False

/-- Only an identifier that was found free is used. -/
theorem Task.ChecksFirst.of_adds {task : Task ν α} {free : Option TransactionId} {id : TransactionId}
    (checks : task.ChecksFirst free) (adds : task.Adds id) : free = some id := by
  cases task with
  | addEntry entry next => rw [checks.1, show entry.id = id from adds]
  | _ => cases adds

/-- After a lock has been got no entry is added yet. -/
theorem Task.ChecksFirst.not_adds {id : AccountId} {task : Task ν α} {free : Option TransactionId}
    (checks : (Task.lockRow id task).ChecksFirst free) (new : TransactionId) : ¬task.Adds new := by
  intro adds
  have checks' : task.ChecksFirst none := checks
  cases checks'.of_adds adds

private theorem write_checksFirst {row : Except LedgerError Account}
    {next : Except LedgerError Unit → Task ν α} (checks : ∀ answer, (next answer).ChecksFirst none) :
    (perform.write row next).ChecksFirst none := by
  cases row with
  | error e => exact checks _
  | ok account => exact checks _

/-- The store looks first. -/
theorem perform_checksFirst (call : Store.Call) {next : Except LedgerError call.Answer → Task ν α}
    (checks : ∀ answer, (next answer).ChecksFirst none) : (perform call next).ChecksFirst none := by
  cases call with
  | account id =>
      intro row
      exact checks _
  | accountIncludingClosed id =>
      intro row
      exact checks _
  | accountForUpdate id =>
      intro row
      exact checks _
  | createAccount account =>
      intro row
      exact write_checksFirst checks
  | updateAccount account =>
      intro row
      exact write_checksFirst checks
  | deleteAccount id =>
      intro row
      dsimp only
      split
      · exact checks _
      · intro time
        exact write_checksFirst checks
  | createEntry entry =>
      intro armed
      cases armed with
      | true => exact checks _
      | false =>
          intro row
          dsimp only
          split
          · exact checks _
          · intro row
            dsimp only
            split
            · exact (checks _).weaken _
            · rename_i fresh
              cases row with
              | none => exact ⟨rfl, checks _⟩
              | some found => cases fresh
  | entry id =>
      intro row
      exact (checks _).weaken _
  | history user account =>
      intro entries
      exact checks _

/-- Whatever a unit of work is, it adds no entry without a look. -/
theorem Work.task_checksFirst (work : Work ν α) : work.task.ChecksFirst none := by
  induction work with
  | done | panic => trivial
  | call call next inductionHypothesis => exact perform_checksFirst call inductionHypothesis
  | now next inductionHypothesis => exact inductionHypothesis
  | newId next inductionHypothesis => exact inductionHypothesis
  | convert amount target next inductionHypothesis => exact inductionHypothesis
  | sleep millis next inductionHypothesis => exact inductionHypothesis
  | note entry next inductionHypothesis => exact inductionHypothesis

/-! ### Sessions that have found an identifier free -/

/-- A session has found an identifier free and uses it: it has staged an entry with it or is about to. -/
def Session.Claims (session : Session ν α) (id : TransactionId) : Prop :=
  ∃ task, session.phase.remaining = some task ∧ (id ∈ session.staged.entryIds ∨ task.Adds id)

def Session.Completed (session : Session ν α) : Prop :=
  ∃ value, session.phase.outcome = some (.completed value)

/-- A session uses no identifier twice. -/
structure Session.Careful (session : Session ν α) : Prop where
  distinct : session.staged.entryIds.Nodup
  checks : ∀ task, session.phase.remaining = some task → ∃ free, task.ChecksFirst free
  unused : ∀ task id, session.phase.remaining = some task → task.Adds id →
    id ∉ session.staged.entryIds

section Turns

variable {committed after : Tables} {clock : Nat} {session next : Session ν α} {learned : List Reading}

/-- A turn changes the committed tables only if it is the one that completes the run. -/
theorem Turn.tables_cases (turn : Turn committed clock session learned next after) :
    after = committed ∨ ∃ value, session.phase = .publishing value ∧
      next.phase = .releasing (.completed value) ∧ after = committed.extend session.staged := by
  cases turn with
  | @publish value before => exact .inr ⟨value, before, rfl, rfl⟩
  | _ => exact .inl rfl

theorem Session.Careful.opening (context : RequestContext) (start since : Nat) (work : Work ν α) :
    Session.Careful ⟨context, .opening start work.task, since, [], .empty, []⟩ where
  distinct := List.nodup_nil
  checks := by
    rintro _ ⟨rfl⟩
    exact ⟨none, work.task_checksFirst⟩
  unused := by
    intro task id _ _ member
    cases member

theorem Session.Careful.of_decided (distinct : session.staged.entryIds.Nodup)
    (decided : session.phase.remaining = none) : session.Careful where
  distinct := distinct
  checks := by
    intro task remaining
    rw [decided] at remaining
    cases remaining
  unused := by
    intro task id remaining
    rw [decided] at remaining
    cases remaining

/-- What is claimed after an access was claimed before, or it was free; and it is not staged yet. -/
private theorem Access.claims {task rest : Task ν α} {staged written : Tables}
    (access : Access committed task staged learned rest written) {free : Option TransactionId}
    (checks : task.ChecksFirst free) :
    (∃ free, rest.ChecksFirst free) ∧
      ∀ id, rest.Adds id → id ∉ written.entryIds ∧ id ∉ committed.entryIds := by
  have none_adds : ∀ {rest : Task ν α} {id : TransactionId}, rest.ChecksFirst none → ¬rest.Adds id := by
    intro rest id checks adds
    cases checks.of_adds adds
  cases access with
  | readEntry id next =>
      have checks' := checks (Tables.visibleEntry? committed staged id)
      refine ⟨⟨_, checks'⟩, ?_⟩
      intro other adds
      have found := checks'.of_adds adds
      split at found
      · rename_i absent
        cases found
        rw [Tables.visibleEntry?, Option.or_eq_none_iff, Tables.entry?_eq_none_iff,
          Tables.entry?_eq_none_iff] at absent
        exact absent
      · cases found
  | readAccount id next =>
      exact ⟨⟨none, checks _⟩, fun id adds => absurd adds (none_adds (checks _))⟩
  | readHistory user account next =>
      exact ⟨⟨none, checks _⟩, fun id adds => absurd adds (none_adds (checks _))⟩
  | takeInsertFault next =>
      exact ⟨⟨none, checks _⟩, fun id adds => absurd adds (none_adds (checks _))⟩
  | now next => exact ⟨⟨none, checks _⟩, fun id adds => absurd adds (none_adds (checks _))⟩
  | newId next => exact ⟨⟨none, checks _⟩, fun id adds => absurd adds (none_adds (checks _))⟩
  | convert amount target next =>
      exact ⟨⟨none, checks _⟩, fun id adds => absurd adds (none_adds (checks _))⟩
  | putAccount account next => exact ⟨⟨none, checks⟩, fun id adds => absurd adds (none_adds checks)⟩
  | sleep millis next => exact ⟨⟨none, checks⟩, fun id adds => absurd adds (none_adds checks)⟩
  | note entry next => exact ⟨⟨none, checks⟩, fun id adds => absurd adds (none_adds checks)⟩
  | addEntry entry next =>
      exact ⟨⟨none, checks.2⟩, fun id adds => absurd adds (none_adds checks.2)⟩

/-- What an access stages it stages behind what is staged already. -/
private theorem Access.entryIds {task rest : Task ν α} {staged written : Tables}
    (access : Access committed task staged learned rest written) :
    written.entryIds = staged.entryIds ∧ (∀ id, ¬task.Adds id) ∨
      ∃ new, (∀ id, task.Adds id ↔ new = id) ∧ written.entryIds = staged.entryIds ++ [new] := by
  cases access with
  | addEntry entry next =>
      exact .inr ⟨entry.id, fun _ => Iff.rfl, Tables.entryIds_addEntry staged entry⟩
  | _ => exact .inl ⟨rfl, fun _ adds => adds⟩

/-- A turn leaves a session careful. -/
theorem Session.Careful.turn (careful : session.Careful)
    (turn : Turn committed clock session learned next after) : next.Careful := by
  cases remaining : session.phase.remaining with
  | none =>
      obtain ⟨outcome, decided⟩ := Phase.remaining_eq_none_iff.mp remaining
      obtain ⟨_, _, decided', staged⟩ := turn.of_decided decided
      have distinct : next.staged.entryIds.Nodup := by
        rcases staged with same | nothing
        · exact same ▸ careful.distinct
        · exact nothing ▸ List.nodup_nil
      exact .of_decided distinct (Phase.remaining_of_outcome decided')
  | some task =>
      cases turn.works remaining with
      | stays remaining' _ staged =>
          rw [← remaining] at remaining'
          obtain ⟨distinct, checks, unused⟩ := careful
          rw [← staged] at distinct unused
          rw [← remaining'] at checks unused
          exact ⟨distinct, checks, unused⟩
      | locks before remaining' _ staged =>
          subst before
          obtain ⟨_, checks⟩ := careful.checks _ remaining
          refine ⟨staged ▸ careful.distinct, ?_, ?_⟩
          · intro task same
            rw [remaining'] at same
            cases same
            exact ⟨none, checks⟩
          · intro task new same adds
            rw [remaining'] at same
            cases same
            exact absurd adds (Task.ChecksFirst.not_adds checks new)
      | @access rest learned written access =>
          obtain ⟨free, checks⟩ := careful.checks task remaining
          obtain ⟨checks', unused⟩ := access.claims checks
          constructor
          · rcases access.entryIds with ⟨same, _⟩ | ⟨id, adds, more⟩
            · simp only [same]
              exact careful.distinct
            · simp only [more]
              rw [List.nodup_append]
              refine ⟨careful.distinct, by simp, ?_⟩
              intro old oldMember new newMember same
              rw [List.mem_singleton] at newMember
              exact careful.unused task id remaining ((adds id).mpr rfl) (newMember ▸ same ▸ oldMember)
          · rintro _ ⟨rfl⟩
            exact checks'
          · rintro _ id ⟨rfl⟩ adds
            exact (unused id adds).1
      | lapses _ decided staged | publishes _ decided staged =>
          exact .of_decided (staged ▸ careful.distinct) (Phase.remaining_of_outcome decided)

/-- What a session claims after a turn it has claimed before, or else it was free. -/
theorem Session.Claims.before {id : TransactionId} (claims : next.Claims id) (careful : session.Careful)
    (turn : Turn committed clock session learned next after) :
    session.Claims id ∨ id ∉ committed.entryIds := by
  obtain ⟨task', remaining', claimed⟩ := claims
  have undecided := Phase.outcome_eq_none_of_remaining remaining'
  cases remaining : session.phase.remaining with
  | none =>
      obtain ⟨outcome, decided⟩ := Phase.remaining_eq_none_iff.mp remaining
      rw [(turn.of_decided decided).2.2.1] at undecided
      cases undecided
  | some task =>
      cases turn.works remaining with
      | stays same _ staged =>
          rw [same] at remaining'
          cases remaining'
          rw [staged] at claimed
          exact .inl ⟨_, remaining, claimed⟩
      | locks before same _ staged =>
          subst before
          rw [same] at remaining'
          cases remaining'
          rw [staged] at claimed
          obtain ⟨_, checks⟩ := careful.checks _ remaining
          have noAdds := Task.ChecksFirst.not_adds checks id
          exact .inl ⟨_, remaining, .inl (claimed.resolve_right noAdds)⟩
      | access access =>
          cases remaining'
          obtain ⟨free, checks⟩ := careful.checks task remaining
          rcases claimed with staged | adds
          · refine .inl ⟨task, remaining, ?_⟩
            rcases access.entryIds with ⟨same, _⟩ | ⟨new, adds, more⟩
            · exact .inl (same ▸ staged)
            · simp only [more, List.mem_append, List.mem_singleton] at staged
              rcases staged with old | rfl
              · exact .inl old
              · exact .inr ((adds id).mpr rfl)
          · exact .inr ((access.claims checks).2 id adds).2
      | lapses _ decided | publishes _ decided =>
          rw [decided] at undecided
          cases undecided

/-- What a session claims it claims until its outcome is decided. -/
theorem Session.Claims.turn {id : TransactionId} (claims : session.Claims id)
    (turn : Turn committed clock session learned next after) :
    next.Claims id ∨ ∃ outcome, next.phase.outcome = some outcome := by
  obtain ⟨task, remaining, claimed⟩ := claims
  cases turn.works remaining with
  | stays same _ staged =>
      rw [← staged] at claimed
      exact .inl ⟨task, same, claimed⟩
  | locks before same _ staged =>
      subst before
      rw [← staged] at claimed
      exact .inl ⟨_, same, .inl (claimed.resolve_right fun adds => by cases adds)⟩
  | access access =>
      refine .inl ⟨_, rfl, .inl ?_⟩
      rcases access.entryIds with ⟨same, no⟩ | ⟨new, adds, more⟩
      · simp only [same]
        exact claimed.resolve_right (no id)
      · simp only [more, List.mem_append, List.mem_singleton]
        rcases claimed with staged | mine
        · exact .inl staged
        · exact .inr ((adds id).mp mine).symm
  | lapses _ decided | publishes _ decided => exact .inr ⟨_, decided⟩

/-- A run that is about to publish has staged what it claims. -/
theorem Session.Claims.staged {id : TransactionId} {value : α} (claims : session.Claims id)
    (publishing : session.phase = .publishing value) : id ∈ session.staged.entryIds := by
  obtain ⟨task, remaining, staged | adds⟩ := claims
  · exact staged
  · rw [publishing] at remaining
    cases remaining
    cases adds

/-- A run has completed if it had, or if this was the turn in which it has published its writes. -/
theorem Session.Completed.before (completed : next.Completed)
    (turn : Turn committed clock session learned next after) :
    session.Completed ∨ ∃ value, session.phase = .publishing value ∧
      after = committed.extend session.staged := by
  obtain ⟨value, decided⟩ := completed
  cases turn with
  | pass phase before afterwards =>
      rw [Phase.outcome_eq_none_of_remaining afterwards] at decided
      cases decided
  | approve | lock | lockAgain | access => cases decided
  | miss before lapses | lapse before lapses =>
      cases decided
      exact absurd rfl (lapses.ne_completed value)
  | publish before => exact .inr ⟨_, before, rfl⟩
  | release before => exact .inl ⟨value, decided⟩
  | finish before =>
      refine .inl ⟨value, ?_⟩
      rw [before]
      exact decided

theorem Session.Completed.turn (completed : session.Completed)
    (turn : Turn committed clock session learned next after) : next.Completed := by
  obtain ⟨value, decided⟩ := completed
  exact ⟨value, turn.outcome_eq decided⟩

end Turns

end Passbook.Session

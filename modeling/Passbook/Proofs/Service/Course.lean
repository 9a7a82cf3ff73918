import Passbook.Proofs.Service.Confidence
import Passbook.Proofs.Service.Publication
import Passbook.Proofs.Service.Log
/-!
# The course of operations

Where an operation that is at work has been led by what it was told.  It has locked the rows that it has looked at,
and the identifiers of its entries were handed out to nobody else, so what the others do meanwhile is nothing to it:
its work would have been led there on the tables as they are committed now.
-/

namespace Passbook

open Session (Reading Outcome Task Turn Footprint)
open Store (Tables)

/-! ### What guarded tasks look at and stage -/

namespace Session.Task.Guarded

variable {ν α : Type} {held : AccountId → Prop} {drawn : Uuid → Prop}

/-- A guarded task looks at rows that it has locked and at entries under identifiers that were handed out to it. -/
theorem within {task : Task ν α} (guarded : task.Guarded held drawn) :
    task.Within ⟨held, fun id => drawn id.uuid, False⟩ := by
  cases task with
  | readAccount | readEntry => exact guarded.1
  | readHistory => exact guarded
  | _ => exact trivial

/-- A guarded task stages entries under identifiers that are handed out to it. -/
theorem execute_entries {committed written : Tables} {outcome : Outcome α} {known : Uuid → Prop} {task : Task ν α} :
    ∀ {held drawn staged readings}, task.Guarded held drawn → (∀ id, drawn id → known id) →
      (∀ id, .newId id ∈ readings → known id) → (∀ entry ∈ staged.entries, known entry.id.uuid) →
        task.execute committed staged readings = some (outcome, written) →
          ∀ entry ∈ written.entries, known entry.id.uuid := by
  induction task with
  | done result =>
      intro held drawn staged readings _ _ _ already executed
      cases readings with
      | nil =>
          cases executed
          exact already
      | cons => cases executed
  | panic | readHistory =>
      intro held drawn staged readings guarded
      exact guarded.elim
  | lockRow id next inductionHypothesis | sleep millis next inductionHypothesis
  | note entry next inductionHypothesis =>
      intro held drawn staged readings guarded handedOut told already executed
      rw [execute] at executed
      exact inductionHypothesis guarded handedOut told already executed
  | putAccount account next inductionHypothesis =>
      intro held drawn staged readings guarded handedOut told already executed
      rw [execute] at executed
      refine inductionHypothesis guarded handedOut told ?_ executed
      rwa [Tables.entries_putAccount]
  | readAccount id next inductionHypothesis | readEntry id next inductionHypothesis =>
      intro held drawn staged readings guarded handedOut told already executed
      rw [execute] at executed
      exact inductionHypothesis _ (guarded.2 _) handedOut told already executed
  | addEntry entry next inductionHypothesis =>
      intro held drawn staged readings guarded handedOut told already executed
      rw [execute] at executed
      refine inductionHypothesis guarded.2 handedOut told ?_ executed
      intro other member
      rcases List.mem_append.mp member with old | new
      · exact already other old
      · cases List.mem_singleton.mp new
        exact handedOut _ guarded.1
  | takeInsertFault next inductionHypothesis =>
      intro held drawn staged readings guarded handedOut told already executed
      obtain ⟨armed, rest, rfl, executed⟩ := execute_takeInsertFault executed
      have told' : ∀ id, .newId id ∈ rest → known id := fun id member => told id (List.mem_cons_of_mem _ member)
      cases armed with
      | true =>
          have ends : (next true).Guarded held drawn := by
            rw [guarded.1]
            trivial
          exact inductionHypothesis true ends handedOut told' already executed
      | false => exact inductionHypothesis false guarded.2 handedOut told' already executed
  | now next inductionHypothesis =>
      intro held drawn staged readings guarded handedOut told already executed
      obtain ⟨time, rest, rfl, executed⟩ := execute_now executed
      exact inductionHypothesis time (guarded time) handedOut
        (fun id member => told id (List.mem_cons_of_mem _ member)) already executed
  | convert amount target next inductionHypothesis =>
      intro held drawn staged readings guarded handedOut told already executed
      obtain ⟨answer, rest, rfl, executed⟩ := execute_convert executed
      exact inductionHypothesis answer (guarded answer) handedOut
        (fun id member => told id (List.mem_cons_of_mem _ member)) already executed
  | newId next inductionHypothesis =>
      intro held drawn staged readings guarded handedOut told already executed
      obtain ⟨id, rest, rfl, executed⟩ := execute_newId executed
      refine inductionHypothesis id (guarded id) ?_
        (fun id member => told id (List.mem_cons_of_mem _ member)) already executed
      rintro other (rfl | before)
      · exact told _ List.mem_cons_self
      · exact handedOut other before

end Session.Task.Guarded

namespace Service

variable {defaultCurrency : Currency} {user : UserId} {operation : Operation} {tables after : Tables}
  {readings learned : List Reading} {outcome : Outcome Answer}

/-! ### Where entries come from -/

/-- An operation that is carried out commits no entry but under an identifier that it was handed out. -/
theorem Operation.mem_entryIds_of_carryOut
    (carried : operation.carryOut defaultCurrency user tables readings = some (outcome, after)) {id : TransactionId}
    (member : id ∈ after.entryIds) : id ∈ tables.entryIds ∨ drawn readings id.uuid := by
  cases checked : operation.check with
  | error e =>
      cases readings with
      | nil =>
          rw [carryOut_of_refused checked] at carried
          cases carried
          exact .inl member
      | cons =>
          unfold carryOut at carried
          simp only [checked] at carried
          cases carried
  | ok _ =>
      rw [carryOut_of_checked checked] at carried
      obtain ⟨⟨outcome', written⟩, executed, committed⟩ := Option.map_eq_some_iff.mp carried
      cases committed
      cases kind : operation.isLook with
      | true =>
          rw [(operation.task_looks defaultCurrency user kind).written_eq executed, published_empty] at member
          exact .inl member
      | false =>
          have none' : ∀ entry ∈ Tables.empty.entries, drawn readings entry.id.uuid := by
            intro entry member
            cases member
          have entries : ∀ entry ∈ written.entries, drawn readings entry.id.uuid :=
            (operation.task_guarded defaultCurrency user kind).execute_entries (fun _ => False.elim)
              (fun _ told => told) none' executed
          cases outcome' with
          | completed answer =>
              rw [published, Tables.entryIds_extend] at member
              rcases List.mem_append.mp member with old | new
              · exact .inl old
              · obtain ⟨entry, staged, rfl⟩ := List.mem_map.mp new
                exact .inr (entries entry staged)
          | _ => exact .inl member

/-- An operation that changes something does not look first. -/
theorem Operation.not_looks (changes : operation.isLook = false) : ¬(operation.task defaultCurrency user).Looks := by
  intro looks
  cases operation with
  | openAccount | move | closeAccount => cases looks
  | _ => cases changes

/-! ### Where a turn leads -/

section Turns

variable {first task task' : Task Empty Answer} {clock : Nat} {session next : Session.Session Empty Answer}

/-- A session that is still at work after its turn has been led further, by rows that it has locked and entries under
identifiers that were handed out to it. -/
theorem leadsTo_turn (turn : Turn tables clock session learned next after)
    (remaining : session.phase.remaining = some task) (remaining' : next.phase.remaining = some task')
    (within : task.Within (ownFootprint session readings))
    (led : first.LeadsTo tables (ownFootprint session readings) readings task session.staged) :
    after = tables ∧
      first.LeadsTo after (ownFootprint next (readings ++ learned)) (readings ++ learned) task' next.staged := by
  have undecided := Session.Phase.outcome_eq_none_of_remaining remaining'
  cases turn.works remaining with
  | stays same held staged =>
      rw [same] at remaining'
      cases remaining'
      have holds : next.Holds = session.Holds := by
        funext id
        simp [Session.Session.Holds, held]
      rw [List.append_nil, ownFootprint, holds, staged]
      exact ⟨rfl, led⟩
  | locks before same holds staged =>
      rw [same] at remaining'
      cases remaining'
      subst before
      rw [List.append_nil, staged]
      refine ⟨rfl, led.lock.widen ?_ (fun _ already => already) False.elim⟩
      intro id already
      rw [ownFootprint, holds]
      exact .inr already
  | access access =>
      cases remaining'
      refine ⟨rfl, (led.access within access).widen (fun _ holds => holds) ?_ False.elim⟩
      exact fun _ already => drawn_append already learned
  | lapses _ decided | publishes _ decided =>
      rw [decided] at undecided
      cases undecided

end Turns

namespace Chronicle

variable {chronicle next : Chronicle} {start : Tables} {log : List (Nat × Outcome Answer)} {number : Nat}
  {session : Session.Session Empty Answer} {event : Event}

/-- Operations that are carried out one after the other on empty tables commit entries under identifiers that were
handed out to them. -/
theorem Serially.exists_drawn (serially : chronicle.Serially .empty log tables) {id : TransactionId}
    (member : id ∈ tables.entryIds) : ∃ number ∈ numbers log, drawn (chronicle.readingsOf number) id.uuid := by
  induction serially with
  | start => cases member
  | @snoc log tables after number outcome _ carried _ inductionHypothesis =>
      obtain ⟨call, _, carried⟩ := Option.bind_eq_some_iff.mp carried
      rw [numbers_append]
      rcases Operation.mem_entryIds_of_carryOut carried member with old | new
      · obtain ⟨other, logged, drawn⟩ := inductionHypothesis old
        exact ⟨other, List.mem_append_left _ logged, drawn⟩
      · exact ⟨number, List.mem_append_right _ (List.mem_singleton.mpr rfl), new⟩

/-! ### What an event is to a session -/

/-- What an event is to a session: its turn, or something that leaves it as it is, and the rows that it has locked and
the entries under its identifiers. -/
inductive Befalls (chronicle : Chronicle) (number : Nat) (session : Session.Session Empty Answer)
    (next : Chronicle) : Prop where
  | turn {later : Session.Session Empty Answer} {learned : List Reading}
      (known : next.world.sessions[number]? = some later)
      (turn : Turn chronicle.world.tables chronicle.world.clock session learned later next.world.tables)
      (readings : next.readingsOf number = chronicle.readingsOf number ++ learned)
  | rest (known : next.world.sessions[number]? = some session)
      (readings : next.readingsOf number = chronicle.readingsOf number)
      (agree : (ownFootprint session (chronicle.readingsOf number)).Agree chronicle.world.tables next.world.tables)

/-- The tables look the same to whoever they are the same for. -/
private theorem agree_of_eq {seen : Footprint} {tables other : Tables} (same : other = tables) :
    seen.Agree tables other := by
  subst same
  exact ⟨fun _ _ => rfl, fun _ _ => rfl, fun _ => rfl⟩

/-- Every event is one of these to every session. -/
theorem Logged.befalls (logged : Logged start chronicle log) (distinct : chronicle.freshIds.Nodup)
    (happened : chronicle.after? event = some next) (known : chronicle.world.sessions[number]? = some session) :
    chronicle.Befalls number session next := by
  rcases after?_cases happened with ⟨context, operation, _, rfl⟩ | ⟨event', follows⟩
  · obtain ⟨_, sessions, _, _, tables⟩ := chronicle.call_adds context operation
    exact .rest (Session.World.session_kept sessions known) rfl (agree_of_eq tables)
  · have told := follows.readingsOf_eq number
    cases Session.World.after?_happens follows.world with
    | called context work calls =>
        have contrary := follows.notCall
        rw [calls] at contrary
        cases contrary
    | aside sessions tables _ _ quiet =>
        rw [quiet, List.append_nil] at told
        exact .rest (sessions ▸ known) told (agree_of_eq tables)
    | @turned other later one found sessions turn _ others =>
        obtain ⟨bound, _⟩ := List.getElem?_eq_some_iff.mp known
        by_cases mine : one = number
        · subst mine
          rw [known] at found
          cases found
          refine .turn ?_ turn told
          rw [sessions, List.getElem?_set_self bound]
        · rw [others number (Ne.symm mine), List.append_nil] at told
          refine .rest ?_ told ⟨?_, ?_, False.elim⟩
          · rw [sessions, List.getElem?_set_ne mine, known]
          · intro id holds
            refine turn.account?_of_not_holds (logged.inOrder.staged found) fun holds' => mine ?_
            exact (logged.inOrder.locks.exclusive known found holds holds').symm
          · intro id drawn
            refine (logged.stands one other found).entry?_eq turn fun theirs => mine ?_
            exact (number_eq_of_drawn distinct drawn theirs).symm

/-! ### Where operations at work have been led -/

/-- Every operation that changes something and is still at work could have been led right now to where it is, by the
rows that it has locked and entries under identifiers that were handed out to it. -/
def Poised (chronicle : Chronicle) : Prop :=
  ∀ (number : Nat) (session : Session.Session Empty Answer) (task : Task Empty Answer) (user : UserId)
    (operation : Operation), chronicle.world.sessions[number]? = some session →
      session.phase.remaining = some task → chronicle.calls[number]? = some (user, operation) →
        operation.isLook = false → (operation.task chronicle.defaultCurrency user).LeadsTo chronicle.world.tables
          (ownFootprint session (chronicle.readingsOf number)) (chronicle.readingsOf number) task session.staged

theorem poised_start (defaultCurrency : Currency) (tables : Tables) :
    (Chronicle.start defaultCurrency tables).Poised := by
  intro number session task user operation known
  cases known

/-- An operation that changes something and is still at work is not in the log, and has not come to its moment. -/
theorem Logged.underway (logged : Logged start chronicle log) {task : Task Empty Answer}
    (known : chronicle.world.sessions[number]? = some session) (remaining : session.phase.remaining = some task)
    (called : chronicle.calls[number]? = some (user, operation)) (changes : operation.isLook = false) :
    number ∉ numbers log ∧
      Underway chronicle.world.tables (operation.task chronicle.defaultCurrency user) (chronicle.readingsOf number)
        session := by
  have undecided := Session.Phase.outcome_eq_none_of_remaining remaining
  cases logged.stands number session known with
  | underway unlogged called' _ underway =>
      rw [called] at called'
      cases called'
      exact ⟨unlogged, underway⟩
  | void _ decided =>
      rw [decided] at undecided
      cases undecided
  | settled member called' settled =>
      rw [called] at called'
      cases called'
      obtain ⟨outcome, here⟩ := exists_of_mem_numbers member
      cases settled outcome here with
      | decided decided =>
          rw [decided] at undecided
          cases undecided
      | looked looks | dropped looks => exact absurd looks (operation.not_looks changes)

/-- What such an operation looks at next is its own. -/
theorem Logged.within (logged : Logged start chronicle log) {task : Task Empty Answer}
    (known : chronicle.world.sessions[number]? = some session) (remaining : session.phase.remaining = some task)
    (called : chronicle.calls[number]? = some (user, operation)) (changes : operation.isLook = false) :
    task.Within (ownFootprint session (chronicle.readingsOf number)) := by
  cases (logged.underway known remaining called changes).2 with
  | guarded remaining' guarded =>
      rw [remaining] at remaining'
      cases remaining'
      exact guarded.within
  | looking looks | lookingOn looks => exact absurd looks (operation.not_looks changes)
  | hit remaining' =>
      rw [remaining] at remaining'
      cases remaining'
      trivial

/-- Who has called what was so before, if the session was there before. -/
private theorem called_before (logged : Logged start chronicle log) (happened : chronicle.after? event = some next)
    (known : chronicle.world.sessions[number]? = some session) {call : UserId × Operation}
    (called : next.calls[number]? = some call) : chronicle.calls[number]? = some call := by
  obtain ⟨bound, _⟩ := List.getElem?_eq_some_iff.mp known
  rw [← logged.length] at bound
  obtain ⟨more, calls⟩ := calls_grow happened
  rwa [← calls, List.getElem?_append_left bound] at called

/-- A session is one that was there before, or it has been called only now. -/
private theorem session_cases (logged : Logged start chronicle log) (happened : chronicle.after? event = some next)
    {later : Session.Session Empty Answer} (here : next.world.sessions[number]? = some later) :
    (∃ session, chronicle.world.sessions[number]? = some session) ∨
      number = chronicle.calls.length ∧ ∃ context operation, next = chronicle.call context operation := by
  rcases after?_proceeds happened with
    ⟨context, operation, _, rfl⟩ | ⟨_, _, _, sessions, _, _, _⟩ | ⟨_, sessions, _, _, _⟩
  · obtain ⟨_, sessions, _, _, _⟩ := chronicle.call_adds context operation
    rcases Session.World.session_added sessions here with before | ⟨same, _⟩
    · exact .inl ⟨_, before⟩
    · exact .inr ⟨same.trans logged.length.symm, context, operation, rfl⟩
  · obtain ⟨bound, _⟩ := List.getElem?_eq_some_iff.mp here
    rw [sessions, List.length_set] at bound
    exact .inl ⟨_, List.getElem?_eq_getElem bound⟩
  · exact .inl ⟨later, sessions ▸ here⟩

/-- A session that is still at work after its turn was so before. -/
private theorem exists_remaining {clock : Nat} {learned : List Reading} {later : Session.Session Empty Answer}
    {task : Task Empty Answer} (turn : Turn tables clock session learned later after)
    (remaining : later.phase.remaining = some task) : ∃ task, session.phase.remaining = some task := by
  cases before : session.phase.remaining with
  | some task => exact ⟨task, rfl⟩
  | none =>
      obtain ⟨outcome, decided⟩ := Session.Phase.remaining_eq_none_iff.mp before
      rw [Session.Phase.remaining_of_outcome (turn.outcome_eq decided)] at remaining
      cases remaining

/-- Every event leaves the operations so. -/
theorem Poised.after? (poised : chronicle.Poised) (logged : Logged start chronicle log)
    (distinct : chronicle.freshIds.Nodup) (happened : chronicle.after? event = some next) : next.Poised := by
  intro number later task user operation here remaining called changes
  rcases session_cases logged happened here with ⟨session, known⟩ | ⟨rfl, context, operation', rfl⟩
  · have called' := called_before logged happened known called
    rw [defaultCurrency_eq happened]
    cases logged.befalls distinct happened known with
    | turn known' turn readings =>
        rw [here] at known'
        cases known'
        obtain ⟨before, remaining'⟩ := exists_remaining turn remaining
        have within := logged.within known remaining' called' changes
        rw [readings]
        exact (leadsTo_turn turn remaining' remaining within
          (poised number session before user operation known remaining' called' changes)).2
    | rest known' readings agree =>
        rw [here] at known'
        cases known'
        rw [readings]
        exact (poised number later task user operation known remaining called' changes).congr agree
  · have untold : (chronicle.call context operation').readingsOf chronicle.calls.length = [] := by
      rw [List.eq_nil_iff_forall_not_mem]
      intro reading member
      exact absurd (logged.told _ reading (mem_readingsOf.mp member)) (Nat.lt_irrefl _)
    simp only [call, List.getElem?_concat_length, Option.some.injEq, Prod.mk.injEq] at called
    obtain ⟨rfl, rfl⟩ := called
    rw [untold]
    simp only [call, logged.length] at here
    split at here
    · simp only [Session.World.call, List.getElem?_concat_length, Option.some.injEq] at here
      subst here
      cases remaining
      exact .start
    · simp only [List.getElem?_concat_length, Option.some.injEq] at here
      subst here
      cases remaining

end Chronicle

end Service

end Passbook

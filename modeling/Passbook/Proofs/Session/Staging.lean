import Passbook.Proofs.Session.Exclusion
import Passbook.Proofs.Store.Rows
/-!
# Staged writes

Whatever the work of a session is, it writes only rows that it has locked, and what it writes goes on from
the row that is committed at that very moment.  Between the reading of a row and its writing the others may
do what they like: the row is locked, and of the rows that are not locked nothing is needed but that they do
not go away.
-/

namespace Passbook.Session

open Store (Tables Continues Keyed)

variable {ν α : Type}

/-! ### What a task may do -/

/-- What a session has to put up with between two accesses: rows that it has not locked change, as accounts
do, but the rows it has locked do not. -/
structure Rely (held : AccountId → Prop) (before after : AccountId → Option Account) : Prop where
  own : ∀ id, held id → after id = before id
  rows : ∀ id, Continues (before id) (after id)
  keyed : Keyed after

/-- A row is written over the rows that are seen. -/
def written (rows : AccountId → Option Account) (account : Account) : AccountId → Option Account :=
  fun id => if account.id = id then some account else rows id

/-- All that a task does is lawful, given the rows it has locked and the rows it sees: it writes rows that it
has locked and that go on from what they were, and it records entries for accounts that exist. -/
def Task.Lawful : Task ν α → (AccountId → Prop) → (AccountId → Option Account) → Prop
  | .done _, _, _ | .panic _, _, _ => True
  | .lockRow id next, held, rows =>
      ∀ rows', Rely held rows rows' → next.Lawful (fun other => other = id ∨ held other) rows'
  | .readAccount id next, held, rows =>
      ∀ rows', Rely held rows rows' → (next (rows' id)).Lawful held rows'
  | .readEntry _ next, held, rows => ∀ row, (next row).Lawful held rows
  | .readHistory _ _ next, held, rows => ∀ entries, (next entries).Lawful held rows
  | .takeInsertFault next, held, rows => ∀ armed, (next armed).Lawful held rows
  | .putAccount account next, held, rows =>
      held account.id ∧ Continues (rows account.id) (some account) ∧
        next.Lawful held (written rows account)
  | .addEntry entry next, held, rows =>
      (∃ account, rows entry.account = some account) ∧ next.Lawful held rows
  | .now next, held, rows => ∀ time, (next time).Lawful held rows
  | .newId next, held, rows => ∀ id, (next id).Lawful held rows
  | .convert _ _ next, held, rows => ∀ answer, (next answer).Lawful held rows
  | .sleep _ next, held, rows => next.Lawful held rows
  | .note _ next, held, rows => next.Lawful held rows

namespace Rely

variable {held : AccountId → Prop} {first second third : AccountId → Option Account}

theorem refl (keyed : Keyed first) : Rely held first first :=
  ⟨fun _ _ => rfl, fun id => .refl (first id), keyed⟩

theorem trans (before : Rely held first second) (after : Rely held second third) :
    Rely held first third where
  own id held := (after.own id held).trans (before.own id held)
  rows id := (before.rows id).trans (after.rows id)
  keyed := after.keyed

/-- What the others do they do not do to a row that has just been written. -/
theorem write (rely : Rely held first second) (account : Account) :
    Rely held (written first account) (written second account) where
  own id holds := by
    simp only [written]
    split
    · rfl
    · exact rely.own id holds
  rows id := by
    simp only [written]
    split
    · exact .refl _
    · exact rely.rows id
  keyed := by
    intro id found here
    simp only [written] at here
    split at here
    · rename_i same
      cases here
      exact same
    · exact rely.keyed id found here

end Rely

/-- Lawful work stays lawful whatever the others do. -/
theorem Task.Lawful.rely {held : AccountId → Prop} {task : Task ν α} :
    ∀ {rows rows' : AccountId → Option Account}, task.Lawful held rows → Rely held rows rows' →
      task.Lawful held rows' := by
  induction task generalizing held with
  | done | panic => intros; trivial
  | lockRow id next inductionHypothesis =>
      intro rows rows' lawful rely rows'' rely'
      exact lawful rows'' (rely.trans rely')
  | readAccount id next inductionHypothesis =>
      intro rows rows' lawful rely rows'' rely'
      exact lawful rows'' (rely.trans rely')
  | readEntry id next inductionHypothesis =>
      intro rows rows' lawful rely row
      exact inductionHypothesis row (lawful row) rely
  | readHistory user account next inductionHypothesis =>
      intro rows rows' lawful rely entries
      exact inductionHypothesis entries (lawful entries) rely
  | takeInsertFault next inductionHypothesis =>
      intro rows rows' lawful rely armed
      exact inductionHypothesis armed (lawful armed) rely
  | putAccount account next inductionHypothesis =>
      rintro rows rows' ⟨holds, goesOn, lawful⟩ rely
      refine ⟨holds, ?_, inductionHypothesis lawful (rely.write account)⟩
      rw [rely.own account.id holds]
      exact goesOn
  | addEntry entry next inductionHypothesis =>
      rintro rows rows' ⟨⟨account, found⟩, lawful⟩ rely
      obtain ⟨account', found', _⟩ := rely.rows entry.account account found
      exact ⟨⟨account', found'⟩, inductionHypothesis lawful rely⟩
  | now next inductionHypothesis =>
      intro rows rows' lawful rely time
      exact inductionHypothesis time (lawful time) rely
  | newId next inductionHypothesis =>
      intro rows rows' lawful rely id
      exact inductionHypothesis id (lawful id) rely
  | convert amount target next inductionHypothesis =>
      intro rows rows' lawful rely answer
      exact inductionHypothesis answer (lawful answer) rely
  | sleep millis next inductionHypothesis =>
      intro rows rows' lawful rely
      exact inductionHypothesis lawful rely
  | note entry next inductionHypothesis =>
      intro rows rows' lawful rely
      exact inductionHypothesis lawful rely

/-! ### All work is lawful -/

section Calls

variable {held : AccountId → Prop} {rows : AccountId → Option Account}

/-- A row that a rule lets pass may be written. -/
private theorem perform_write_lawful {row : Except LedgerError Account}
    {next : Except LedgerError Unit → Task ν α}
    (allowed : ∀ account, row = .ok account →
      held account.id ∧ Continues (rows account.id) (some account))
    (lawful : ∀ answer held rows, (next answer).Lawful held rows) :
    (perform.write row next).Lawful held rows := by
  cases row with
  | error e => exact lawful _ _ _
  | ok account =>
      obtain ⟨holds, goesOn⟩ := allowed account rfl
      exact ⟨holds, goesOn, lawful _ _ _⟩

/-- A store call is lawful if what comes after it is. -/
theorem perform_lawful (call : Store.Call) {next : Except LedgerError call.Answer → Task ν α}
    (lawful : ∀ answer held rows, (next answer).Lawful held rows) :
    (perform call next).Lawful held rows := by
  cases call with
  | account id =>
      intro rows' _
      exact lawful _ _ _
  | accountIncludingClosed id =>
      intro rows' _
      exact lawful _ _ _
  | accountForUpdate id =>
      intro rows' _ rows'' _
      exact lawful _ _ _
  | createAccount account =>
      intro rows' _ rows'' _
      refine perform_write_lawful ?_ lawful
      intro new allowed
      rw [Store.id_of_newRow allowed]
      exact ⟨.inl rfl, .newRow allowed⟩
  | updateAccount account =>
      intro rows' _ rows'' rely
      refine perform_write_lawful ?_ lawful
      intro new allowed
      rw [Store.id_of_updatedRow allowed]
      exact ⟨.inl rfl, .updatedRow (rely.keyed _) allowed⟩
  | deleteAccount id =>
      intro rows' _ rows'' rely
      dsimp only
      split
      · exact lawful _ _ _
      · intro time
        refine perform_write_lawful ?_ lawful
        intro new allowed
        rw [Store.id_of_closedRow allowed]
        exact ⟨.inl rfl, .closedRow (rely.keyed _) allowed⟩
  | createEntry entry =>
      intro armed
      cases armed with
      | true => exact lawful _ _ _
      | false =>
          intro rows' _
          dsimp only
          split
          · exact lawful _ _ _
          · rename_i reference
            intro row
            dsimp only
            split
            · exact lawful _ _ _
            · exact ⟨Store.requireReference_eq_ok reference, lawful _ _ _⟩
  | entry id =>
      intro row
      exact lawful _ _ _
  | history user account =>
      intro entries
      exact lawful _ _ _

/-- Whatever a unit of work is, it is lawful. -/
theorem Work.task_lawful (work : Work ν α) :
    ∀ (held : AccountId → Prop) (rows : AccountId → Option Account), work.task.Lawful held rows := by
  induction work with
  | done | panic => intros; trivial
  | call call next inductionHypothesis =>
      intro held rows
      exact perform_lawful call inductionHypothesis
  | now next inductionHypothesis =>
      intro held rows time
      exact inductionHypothesis time held rows
  | newId next inductionHypothesis =>
      intro held rows id
      exact inductionHypothesis id held rows
  | convert amount target next inductionHypothesis =>
      intro held rows answer
      exact inductionHypothesis answer held rows
  | sleep millis next inductionHypothesis =>
      intro held rows
      exact inductionHypothesis held rows
  | note entry next inductionHypothesis =>
      intro held rows
      exact inductionHypothesis held rows

end Calls

/-! ### Sessions at work -/

/-- A session at work: what remains to be done is lawful, the rows it has written are rows it has locked and
go on from those that are committed, and the accounts its entries are for exist. -/
structure Session.AtWork (committed : Tables) (session : Session ν α) (task : Task ν α) : Prop where
  lawful : task.Lawful session.Holds (Tables.visibleAccount? committed session.staged)
  rows : ∀ id account, session.staged.account? id = some account →
    session.Holds id ∧ Continues (committed.account? id) (some account)
  entries : ∀ entry ∈ session.staged.entries,
    ∃ account, Tables.visibleAccount? committed session.staged entry.account = some account

/-- What a session has staged is in order as long as its outcome is not decided. -/
structure Session.Staged (committed : Tables) (session : Session ν α) : Prop where
  distinct : session.staged.DistinctRows
  atWork : ∀ task, session.phase.remaining = some task → session.AtWork committed task

section Turns

variable {committed after : Tables} {clock : Nat} {session next : Session ν α} {learned : List Reading}

theorem keyed_visible (committed staged : Tables) :
    Keyed (Tables.visibleAccount? committed staged) :=
  fun _ _ found => Tables.id_of_visibleAccount? found

/-- A session that has not begun has staged nothing. -/
theorem Session.Staged.opening (committed : Tables) (context : RequestContext) (start since : Nat)
    (work : Work ν α) :
    Session.Staged committed ⟨context, .opening start work.task, since, [], .empty, []⟩ where
  distinct := .empty
  atWork := by
    intro task remaining
    cases remaining
    refine ⟨work.task_lawful _ _, ?_, ?_⟩
    · intro id account found
      rw [Tables.account?_empty] at found
      cases found
    · intro entry member
      cases member

/-- Nothing more is asked of what is staged once nothing remains to be done. -/
theorem Session.Staged.of_decided (distinct : session.staged.DistinctRows)
    (decided : session.phase.remaining = none) : session.Staged committed where
  distinct := distinct
  atWork := by
    intro task remaining
    rw [decided] at remaining
    cases remaining

theorem Session.Staged.of_atWork {task : Task ν α} (distinct : session.staged.DistinctRows)
    (remaining : session.phase.remaining = some task) (atWork : session.AtWork committed task) :
    session.Staged committed where
  distinct := distinct
  atWork := by
    intro task' remaining'
    rw [remaining] at remaining'
    cases remaining'
    exact atWork

/-- An access leaves what is staged in order. -/
theorem Session.AtWork.access {task rest : Task ν α} {staged : Tables} {notes : List ν} {since : Nat}
    (atWork : session.AtWork committed task)
    (access : Access committed task session.staged learned rest staged) :
    Session.AtWork committed
      { session with phase := .running rest, since := since, staged := staged, notes := notes } rest := by
  have keyed := keyed_visible committed session.staged
  cases access with
  | readAccount id next => exact ⟨atWork.lawful _ (.refl keyed), atWork.rows, atWork.entries⟩
  | readEntry id next => exact ⟨atWork.lawful _, atWork.rows, atWork.entries⟩
  | readHistory user account next => exact ⟨atWork.lawful _, atWork.rows, atWork.entries⟩
  | takeInsertFault next _ armed => exact ⟨atWork.lawful _, atWork.rows, atWork.entries⟩
  | now next _ time => exact ⟨atWork.lawful _, atWork.rows, atWork.entries⟩
  | newId next _ id => exact ⟨atWork.lawful _, atWork.rows, atWork.entries⟩
  | convert amount target next _ answer => exact ⟨atWork.lawful _, atWork.rows, atWork.entries⟩
  | sleep millis => exact ⟨atWork.lawful, atWork.rows, atWork.entries⟩
  | note entry => exact ⟨atWork.lawful, atWork.rows, atWork.entries⟩
  | putAccount account =>
      obtain ⟨holds, goesOn, lawful⟩ := atWork.lawful
      have seen : Tables.visibleAccount? committed (session.staged.putAccount account) =
          Session.written (Tables.visibleAccount? committed session.staged) account := by
        funext id
        exact Tables.visibleAccount?_putAccount committed session.staged account id
      constructor
      · rw [seen]
        exact lawful
      · intro id found here
        rw [Tables.account?_putAccount] at here
        split at here
        · rename_i same
          cases here
          subst same
          refine ⟨holds, ?_⟩
          -- The row that was seen is the staged one, if there is one, and else the committed one.
          cases staged : session.staged.account? account.id with
          | none =>
              rwa [Tables.visibleAccount?, staged, Option.none_or] at goesOn
          | some before =>
              rw [Tables.visibleAccount?, staged, Option.some_or] at goesOn
              exact (atWork.rows _ before staged).2.trans goesOn
        · exact atWork.rows id found here
      · intro entry member
        obtain ⟨before, found⟩ := atWork.entries entry member
        simp only [seen, Session.written]
        split
        · exact ⟨account, rfl⟩
        · exact ⟨before, found⟩
  | addEntry entry =>
      obtain ⟨exists', lawful⟩ := atWork.lawful
      refine ⟨lawful, atWork.rows, ?_⟩
      intro other member
      rcases List.mem_append.mp member with old | new
      · exact atWork.entries other old
      · rw [List.mem_singleton.mp new]
        exact exists'

/-- A session is at work with what it has locked and staged, wherever else it stands. -/
theorem Session.AtWork.congr {task : Task ν α} (atWork : session.AtWork committed task)
    (holds : next.Holds = session.Holds) (staged : next.staged = session.staged) :
    next.AtWork committed task := by
  obtain ⟨lawful, rows, entries⟩ := atWork
  rw [← holds, ← staged] at lawful
  rw [← holds, ← staged] at rows
  rw [← staged] at entries
  exact ⟨lawful, rows, entries⟩

/-- A turn of a session leaves what it has staged in order. -/
theorem Session.Staged.turn (staged : session.Staged committed)
    (turn : Turn committed clock session learned next after) : next.Staged after := by
  cases remaining : session.phase.remaining with
  | none =>
      obtain ⟨outcome, decided⟩ := Phase.remaining_eq_none_iff.mp remaining
      obtain ⟨_, _, decided', same | nothing⟩ := turn.of_decided decided
      · exact .of_decided (same ▸ staged.distinct) (Phase.remaining_of_outcome decided')
      · exact .of_decided (nothing ▸ .empty) (Phase.remaining_of_outcome decided')
  | some task =>
      have atWork := staged.atWork task remaining
      cases turn.works remaining with
      | stays remaining' held same =>
          have holds : next.Holds = session.Holds := by
            funext id
            simp [Session.Holds, held]
          exact .of_atWork (same ▸ staged.distinct) remaining' (atWork.congr holds same)
      | locks before remaining' holds same =>
          subst before
          obtain ⟨lawful, rows, entries⟩ := atWork
          refine .of_atWork (same ▸ staged.distinct) remaining' ⟨?_, ?_, ?_⟩
          · rw [holds, same]
            exact lawful _ (.refl (keyed_visible _ _))
          · rw [holds, same]
            exact fun id account found => ⟨.inr (rows id account found).1, (rows id account found).2⟩
          · rwa [same]
      | access access =>
          refine .of_atWork ?_ rfl (atWork.access access)
          cases access with
          | putAccount account => exact staged.distinct.putAccount account
          | addEntry entry => exact staged.distinct.addEntry entry
          | _ => exact staged.distinct
      | lapses _ decided same | publishes _ decided same =>
          exact .of_decided (same ▸ staged.distinct) (Phase.remaining_of_outcome decided)

/-- What a session has staged stays in order when others change rows that it has not locked. -/
theorem Session.Staged.others (staged : session.Staged committed)
    (own : ∀ id, session.Holds id → after.account? id = committed.account? id)
    (rows : ∀ id, Continues (committed.account? id) (after.account? id)) : session.Staged after where
  distinct := staged.distinct
  atWork := by
    intro task remaining
    have atWork := staged.atWork task remaining
    have rely : Rely session.Holds (Tables.visibleAccount? committed session.staged)
        (Tables.visibleAccount? after session.staged) := by
      refine ⟨?_, ?_, keyed_visible after session.staged⟩
      · intro id holds
        rw [Tables.visibleAccount?, Tables.visibleAccount?, own id holds]
      · intro id
        rw [Tables.visibleAccount?, Tables.visibleAccount?]
        cases session.staged.account? id with
        | none => exact rows id
        | some account => exact .refl _
    refine ⟨atWork.lawful.rely rely, ?_, ?_⟩
    · intro id account found
      obtain ⟨holds, goesOn⟩ := atWork.rows id account found
      rw [own id holds]
      exact ⟨holds, goesOn⟩
    · intro entry member
      obtain ⟨account, found⟩ := atWork.entries entry member
      obtain ⟨account', found', _⟩ := rely.rows entry.account account found
      exact ⟨account', found'⟩

/-! ### Committed tables -/

/-- A turn changes no committed row but those that the session has locked. -/
theorem Turn.account?_of_not_holds (turn : Turn committed clock session learned next after)
    (staged : session.Staged committed) {id : AccountId} (free : ¬session.Holds id) :
    after.account? id = committed.account? id := by
  cases turn with
  | @publish value before =>
      have atWork := staged.atWork (.done (.ok value)) (by rw [before]; rfl)
      have absent : session.staged.account? id = none := by
        rw [Option.eq_none_iff_forall_not_mem]
        exact fun account found => free (atWork.rows id account found).1
      exact Tables.account?_extend_of_none staged.distinct absent
  | _ => rfl

/-- A turn leaves every committed row where it is. -/
theorem Turn.continues (turn : Turn committed clock session learned next after)
    (staged : session.Staged committed) (id : AccountId) :
    Continues (committed.account? id) (after.account? id) := by
  cases turn with
  | @publish value before =>
      have atWork := staged.atWork (.done (.ok value)) (by rw [before]; rfl)
      rw [Tables.account?_extend staged.distinct]
      cases found : session.staged.account? id with
      | none => exact .refl _
      | some account => exact (atWork.rows id account found).2
  | _ => exact .refl _

end Turns

namespace World

/-- A world in which the locks are in order and so is what the sessions have staged. -/
structure InOrder (world : World ν α) : Prop where
  locks : world.LocksInOrder
  tidy : ∀ session ∈ world.sessions, session.Tidy
  staged : ∀ {number : Nat} {session : Session ν α}, world.sessions[number]? = some session →
    session.Staged world.tables

namespace InOrder

variable {world after : World ν α} {event : Event ν α}

/-- A store without sessions is in order, whatever is in its tables. -/
theorem of_none (registry : world.registry = []) (locks : world.locks = [])
    (sessions : world.sessions = []) : world.InOrder where
  locks := .of_none registry locks sessions
  tidy := by
    intro session member
    simp [sessions] at member
  staged := by
    intro number session found
    simp [sessions] at found

/-- A new session that has done nothing yet leaves the world in order. -/
theorem add (order : world.InOrder) {session : Session ν α}
    (sessions : after.sessions = world.sessions ++ [session]) (tables : after.tables = world.tables)
    (registry : after.registry = world.registry) (locks : after.locks = world.locks)
    (held : session.held = []) (nothing : session.staged = .empty)
    (rests : ∀ id lock, ¬session.phase.Seeks id lock) (staged : session.Staged world.tables) :
    after.InOrder where
  locks := order.locks.add sessions registry locks held rests
  tidy := by
    intro found member
    rw [sessions] at member
    rcases List.mem_append.mp member with old | new
    · exact order.tidy found old
    · rw [List.mem_singleton.mp new]
      exact fun _ => ⟨held, nothing⟩
  staged := by
    intro other found here
    rw [tables]
    rcases session_added sessions here with there | ⟨_, rfl⟩
    · exact order.staged there
    · exact staged

/-- A call leaves the world in order. -/
theorem call (order : world.InOrder) (context : RequestContext) (start : Nat) (work : Work ν α) :
    (world.call context start work).InOrder :=
  order.add rfl rfl rfl rfl rfl rfl (fun _ _ => Phase.not_seeks rfl rfl) (.opening _ context _ _ work)

/-- Every event leaves the world in order. -/
theorem after? (order : world.InOrder) (happened : world.after? event = some after) :
    after.InOrder := by
  cases after?_happens happened with
  | called context work _ eq =>
      subst eq
      exact order.call context _ work
  | turned number known sessions turn =>
      have staged := order.staged known
      refine ⟨order.locks.after? happened, ?_, ?_⟩
      · intro found member
        rw [sessions] at member
        rcases List.mem_or_eq_of_mem_set member with old | rfl
        · exact order.tidy found old
        · exact turn.tidy (order.tidy _ (List.mem_of_getElem? known))
      · intro other found here
        rcases session_after sessions here with ⟨_, rfl⟩ | ⟨different, there⟩
        · exact staged.turn turn
        · refine (order.staged there).others ?_ (turn.continues staged)
          intro id holds
          refine turn.account?_of_not_holds staged ?_
          exact fun holds' => different (order.locks.exclusive there known holds holds')
  | aside sessions tables =>
      refine ⟨order.locks.after? happened, ?_, ?_⟩
      · rw [sessions]
        exact order.tidy
      · rw [sessions, tables]
        exact order.staged

/-- So does every history of events. -/
theorem run? (order : world.InOrder) {events : List (Event ν α)}
    (ran : world.run? events = some after) : after.InOrder :=
  run?_induction order (fun order happened => order.after? happened) ran

end InOrder

/-- Every world that a new store can come to is in order. -/
theorem Reachable.inOrder {world : World ν α} (reachable : world.Reachable) : world.InOrder := by
  obtain ⟨events, ran⟩ := reachable
  exact (InOrder.of_none rfl rfl rfl).run? ran

end World

end Passbook.Session

import Passbook.Proofs.Service.Discipline
/-!
# Punctuality

Whether a session writes rows with the right time.  A time that it was told while it had the row locked is not
before the time of the row that is committed there, and it will not be until the lock is given up, as long as
the clock never goes back.  A time that it was told earlier will do only where there is no row yet.
-/

namespace Passbook

namespace Timestamp

/-- No time is before itself. -/
theorem le_refl (time : Timestamp) : time.le time = true := by
  simp [le]

theorem le_trans {first second third : Timestamp} (before : first.le second = true)
    (after : second.le third = true) : first.le third = true := by
  simp only [le, Bool.or_eq_true, Bool.and_eq_true, decide_eq_true_eq, beq_iff_eq] at before after ⊢
  omega

theorem le_antisymm {one other : Timestamp} (before : one.le other = true) (after : other.le one = true) :
    one = other := by
  obtain ⟨seconds, nanos⟩ := one
  obtain ⟨seconds', nanos'⟩ := other
  simp only [le, Bool.or_eq_true, Bool.and_eq_true, decide_eq_true_eq, beq_iff_eq] at before after
  rw [Timestamp.mk.injEq]
  omega

end Timestamp

namespace Session

open Store (Tables)

variable {ν α β : Type}

/-! ### What a task knows of time -/

/-- What a task knows: the rows it has locked, the times it was told, and for which rows which times will do,
since what is committed there is not of a later time. -/
structure Knowledge where
  held : AccountId → Prop
  told : Timestamp → Prop
  timely : AccountId → Timestamp → Prop

namespace Knowledge

def none : Knowledge := ⟨fun _ => False, fun _ => False, fun _ _ => False⟩

/-- Rows are locked besides others. -/
def lock (knowledge : Knowledge) (id : AccountId) : Knowledge :=
  { knowledge with held := alsoHeld id knowledge.held }

/-- A time is told.  It will do for all rows that are locked. -/
def hear (knowledge : Knowledge) (time : Timestamp) : Knowledge where
  held := knowledge.held
  told other := other = time ∨ knowledge.told other
  timely id other := other = time ∧ knowledge.held id ∨ knowledge.timely id other

/-- There is no row.  If it is locked, all times that were told will do. -/
def miss (knowledge : Knowledge) (id : AccountId) : Knowledge where
  held := knowledge.held
  told := knowledge.told
  timely other time := other = id ∧ knowledge.held id ∧ knowledge.told time ∨ knowledge.timely other time

/-- More is known. -/
structure Within (less more : Knowledge) : Prop where
  held : ∀ id, less.held id → more.held id
  told : ∀ time, less.told time → more.told time
  timely : ∀ id time, less.timely id time → more.timely id time

variable {less more : Knowledge}

theorem Within.lock (within : less.Within more) (id : AccountId) : (less.lock id).Within (more.lock id) where
  held other := Or.imp_right (within.held other)
  told := within.told
  timely := within.timely

theorem Within.hear (within : less.Within more) (time : Timestamp) :
    (less.hear time).Within (more.hear time) where
  held := within.held
  told other := Or.imp_right (within.told other)
  timely id other := Or.imp (And.imp_right (within.held id)) (within.timely id other)

theorem Within.miss (within : less.Within more) (id : AccountId) : (less.miss id).Within (more.miss id) where
  held := within.held
  told := within.told
  timely other time := Or.imp (And.imp_right (And.imp (within.held id) (within.told time)))
    (within.timely other time)

theorem within_hear (knowledge : Knowledge) (time : Timestamp) : knowledge.Within (knowledge.hear time) where
  held _ := id
  told _ := .inr
  timely _ _ := .inr

theorem within_miss (knowledge : Knowledge) (id : AccountId) : knowledge.Within (knowledge.miss id) where
  held _ held := held
  told _ told := told
  timely _ _ := .inr

end Knowledge

/-! ### Punctual tasks -/

/-- A task writes rows only with times that will do. -/
def Task.Punctual : Task ν α → Knowledge → Prop
  | .done _, _ | .panic _, _ => True
  | .lockRow id next, knowledge => next.Punctual (knowledge.lock id)
  | .readAccount id next, knowledge =>
      (next none).Punctual (knowledge.miss id) ∧
        ∀ account, account.id = id → (next (some account)).Punctual knowledge
  | .readEntry _ next, knowledge => ∀ row, (next row).Punctual knowledge
  | .readHistory _ _ next, knowledge => ∀ entries, (next entries).Punctual knowledge
  | .takeInsertFault next, knowledge => ∀ armed, (next armed).Punctual knowledge
  | .putAccount account next, knowledge =>
      knowledge.timely account.id account.updatedAt ∧ next.Punctual knowledge
  | .addEntry _ next, knowledge => next.Punctual knowledge
  | .now next, knowledge => ∀ time, (next time).Punctual (knowledge.hear time)
  | .newId next, knowledge => ∀ id, (next id).Punctual knowledge
  | .convert _ _ next, knowledge => ∀ answer, (next answer).Punctual knowledge
  | .sleep _ next, knowledge => next.Punctual knowledge
  | .note _ next, knowledge => next.Punctual knowledge

/-- Whoever knows more is no less punctual. -/
theorem Task.Punctual.within {task : Task ν α} :
    ∀ {less more : Knowledge}, task.Punctual less → less.Within more → task.Punctual more := by
  induction task with
  | done | panic => intros; trivial
  | lockRow id next inductionHypothesis =>
      intro less more punctual within
      exact inductionHypothesis punctual (within.lock id)
  | readAccount id next inductionHypothesis =>
      rintro less more ⟨missing, found⟩ within
      exact ⟨inductionHypothesis _ missing (within.miss id),
        fun account key => inductionHypothesis _ (found account key) within⟩
  | readEntry _ next inductionHypothesis | readHistory _ _ next inductionHypothesis
  | takeInsertFault next inductionHypothesis | newId next inductionHypothesis
  | convert _ _ next inductionHypothesis =>
      intro less more punctual within answer
      exact inductionHypothesis answer (punctual answer) within
  | putAccount account next inductionHypothesis =>
      rintro less more ⟨timely, punctual⟩ within
      exact ⟨within.timely _ _ timely, inductionHypothesis punctual within⟩
  | now next inductionHypothesis =>
      intro less more punctual within time
      exact inductionHypothesis time (punctual time) (within.hear time)
  | addEntry _ next inductionHypothesis | sleep _ next inductionHypothesis
  | note _ next inductionHypothesis =>
      intro less more punctual within
      exact inductionHypothesis punctual within

/-! ### Punctual work -/

/-- The store calls that write a row with a time that will do: a new one with a time that was told, and an old
one with a time that was told while it was locked.  Whoever closes an account is told the time for it. -/
def Knowledge.Permits (knowledge : Knowledge) : Store.Call → Prop
  | .createAccount account => knowledge.told account.updatedAt
  | .updateAccount account => knowledge.timely account.id account.updatedAt
  | _ => True

/-- What is known after a store call. -/
def Knowledge.after (knowledge : Knowledge) (query : Store.Call) : Knowledge :=
  { knowledge with held := locked query knowledge.held }

/-- An account that is found has the identifier under which it was sought. -/
def Fits : (query : Store.Call) → Except LedgerError query.Answer → Prop
  | .accountForUpdate id, .ok account => account.id = id
  | _, _ => True

/-- Work whose task is punctual, and what holds of its result and of what is known then. -/
def Work.Punctual (post : α → Knowledge → Prop) : Work ν α → Knowledge → Prop
  | .done (.ok a), knowledge => post a knowledge
  | .done (.error _), _ => True
  | .panic _, _ => True
  | .call query next, knowledge =>
      knowledge.Permits query ∧
        ∀ answer, Fits query answer → (next answer).Punctual post (knowledge.after query)
  | .now next, knowledge => ∀ time, (next time).Punctual post (knowledge.hear time)
  | .newId next, knowledge => ∀ id, (next id).Punctual post knowledge
  | .convert _ _ next, knowledge => ∀ answer, (next answer).Punctual post knowledge
  | .sleep _ next, knowledge => next.Punctual post knowledge
  | .note _ next, knowledge => next.Punctual post knowledge

namespace Work.Punctual

variable {knowledge : Knowledge} {post : β → Knowledge → Prop}

/-- Punctual work may go on with punctual work. -/
theorem bind {work : Work ν α} {f : α → Work ν β} :
    ∀ {knowledge}, work.Punctual (fun a knowledge => (f a).Punctual post knowledge) knowledge →
      (work >>= f).Punctual post knowledge := by
  induction work with
  | done result =>
      intro knowledge punctual
      cases result with
      | ok a => exact punctual
      | error e => trivial
  | panic text => intros; trivial
  | call query next inductionHypothesis =>
      rintro knowledge ⟨permits, goesOn⟩
      exact ⟨permits, fun answer fits => inductionHypothesis answer (goesOn answer fits)⟩
  | now next inductionHypothesis | newId next inductionHypothesis
  | convert _ _ next inductionHypothesis =>
      intro knowledge punctual answer
      exact inductionHypothesis answer (punctual answer)
  | sleep _ next inductionHypothesis | note _ next inductionHypothesis =>
      intro knowledge punctual
      exact inductionHypothesis punctual

theorem map {work : Work ν α} {f : α → β} (punctual : work.Punctual (fun _ _ => True) knowledge) :
    (f <$> work).Punctual (fun _ _ => True) knowledge :=
  bind punctual

/-- A result that may be an error. -/
theorem ofExcept {result : Except LedgerError α} {f : α → Work ν β}
    (punctual : ∀ a, result = .ok a → (f a).Punctual post knowledge) :
    (Work.ofExcept result >>= f).Punctual post knowledge := by
  cases result with
  | error e => trivial
  | ok a => exact punctual a rfl

/-- A store call that is permitted. -/
theorem ask {query : Store.Call} {f : query.Answer → Work ν β} (permits : knowledge.Permits query)
    (punctual : ∀ answer, Fits query (.ok answer) → (f answer).Punctual post (knowledge.after query)) :
    (Work.ask query >>= f).Punctual post knowledge := by
  refine ⟨permits, fun answer fits => ?_⟩
  cases answer with
  | error e => trivial
  | ok answer => exact punctual answer fits

theorem clock {f : Timestamp → Work ν β}
    (punctual : ∀ time, (f time).Punctual post (knowledge.hear time)) :
    (Work.clock >>= f).Punctual post knowledge :=
  punctual

theorem freshId {f : Uuid → Work ν β} (punctual : ∀ id, (f id).Punctual post knowledge) :
    (Work.freshId >>= f).Punctual post knowledge :=
  punctual

/-- A row is written with a time that will do. -/
private theorem write_punctual {row : Except LedgerError Account} {next : Except LedgerError Unit → Task ν α}
    (timely : ∀ account, row = .ok account → knowledge.timely account.id account.updatedAt)
    (goesOn : ∀ answer, (next answer).Punctual knowledge) : (perform.write row next).Punctual knowledge := by
  cases row with
  | error e => exact goesOn _
  | ok account => exact ⟨timely account rfl, goesOn _⟩

/-- The accesses of a store call are punctual if the call is permitted. -/
theorem perform {query : Store.Call} {next : Except LedgerError query.Answer → Task ν α}
    (permits : knowledge.Permits query)
    (goesOn : ∀ answer, Fits query answer → (next answer).Punctual (knowledge.after query)) :
    (perform query next).Punctual knowledge := by
  -- A row that was read, or is missing, tells nothing less.
  have missed (id : AccountId) (answer : Except LedgerError query.Answer) (fits : Fits query answer) :
      (next answer).Punctual ((knowledge.after query).miss id) :=
    (goesOn answer fits).within (Knowledge.within_miss _ id)
  cases query with
  | account id | accountIncludingClosed id =>
      exact ⟨missed id _ trivial, fun account _ => goesOn _ trivial⟩
  | accountForUpdate id =>
      refine ⟨missed id _ trivial, fun account key => goesOn _ ?_⟩
      cases live : Store.requireLive id (some account) with
      | error e => trivial
      | ok found =>
          cases (Store.requireLive_eq_ok live).1
          exact key
  | createAccount account =>
      refine ⟨write_punctual ?_ fun answer => missed account.id answer trivial, fun current _ =>
        write_punctual ?_ fun answer => goesOn answer trivial⟩
      · rintro _ ⟨⟩
        exact .inl ⟨rfl, .inl rfl, permits⟩
      · rintro _ ⟨⟩
  | updateAccount account =>
      refine ⟨write_punctual ?_ fun answer => missed account.id answer trivial, fun current _ =>
        write_punctual ?_ fun answer => goesOn answer trivial⟩
      · rintro _ ⟨⟩
      · intro row allowed
        obtain ⟨_, _, _, _, _, rfl⟩ := Store.updatedRow_eq_ok allowed
        exact permits
  | deleteAccount id =>
      refine ⟨missed id _ trivial, fun current _ => ?_⟩
      dsimp only
      split
      · exact goesOn _ trivial
      · intro time
        refine write_punctual ?_ fun answer => (goesOn answer trivial).within (Knowledge.within_hear _ time)
        intro row allowed
        obtain ⟨_, _, _, rfl⟩ := Store.closedRow_eq_ok allowed
        exact .inl ⟨rfl, .inl rfl⟩
  | createEntry entry =>
      intro armed
      cases armed with
      | true => exact goesOn _ trivial
      | false =>
          refine ⟨missed entry.account _ trivial, fun account _ row => ?_⟩
          dsimp only
          split
          · exact goesOn _ trivial
          · exact goesOn _ trivial
  | entry id => exact fun row => goesOn _ trivial
  | history user account => exact fun entries => goesOn _ trivial

/-- The task of punctual work is punctual. -/
theorem task {work : Work ν β} :
    ∀ {knowledge}, work.Punctual post knowledge → work.task.Punctual knowledge := by
  induction work with
  | done | panic => intros; trivial
  | call query next inductionHypothesis =>
      rintro knowledge ⟨permits, goesOn⟩
      exact perform permits fun answer fits => inductionHypothesis answer (goesOn answer fits)
  | now next inductionHypothesis | newId next inductionHypothesis
  | convert _ _ next inductionHypothesis =>
      intro knowledge punctual answer
      exact inductionHypothesis answer (punctual answer)
  | sleep _ next inductionHypothesis | note _ next inductionHypothesis =>
      intro knowledge punctual
      exact inductionHypothesis punctual

end Work.Punctual

/-! ### Punctual sessions -/

section Turns

variable {past past' : Timestamp → Prop} {committed after : Tables} {clock : Nat} {session next : Session ν α}
  {learned : List Reading} {knowledge : Knowledge}

/-- What a session knows is so.  The times that anyone was told so far are past. -/
structure Session.Knows (past : Timestamp → Prop) (committed : Tables) (session : Session ν α)
    (knowledge : Knowledge) : Prop where
  held : ∀ id, knowledge.held id → session.Holds id
  told : ∀ time, knowledge.told time → past time
  timely : ∀ id time, knowledge.timely id time → session.Holds id ∧ past time ∧
    ∀ row, committed.account? id = some row → row.updatedAt.le time = true

/-- A session that is still at work is punctual, and has been so with all rows that it has staged. -/
def Session.Punctual (past : Timestamp → Prop) (committed : Tables) (session : Session ν α) : Prop :=
  ∀ task, session.phase.remaining = some task → ∃ knowledge, session.Knows past committed knowledge ∧
    task.Punctual knowledge ∧
      ∀ id row, session.staged.account? id = some row → knowledge.timely id row.updatedAt

/-- No committed row is of a time that is yet to come. -/
def RowsPast (past : Timestamp → Prop) (tables : Tables) : Prop :=
  ∀ id row, tables.account? id = some row → past row.updatedAt

/-- A time comes that is not before any that is past. -/
structure Comes (past past' : Timestamp → Prop) (learned : List Reading) : Prop where
  grows : ∀ time, past time → past' time
  told : ∀ time, .now time ∈ learned → past' time ∧ ∀ earlier, past earlier → earlier.le time = true

theorem Session.Knows.mono (knows : session.Knows past committed knowledge)
    (grows : ∀ time, past time → past' time) (holds : ∀ id, session.Holds id → next.Holds id)
    (own : ∀ id, session.Holds id → after.account? id = committed.account? id) :
    next.Knows past' after knowledge where
  held id held := holds id (knows.held id held)
  told time told := grows time (knows.told time told)
  timely id time timely := by
    obtain ⟨held, isPast, notBefore⟩ := knows.timely id time timely
    exact ⟨holds id held, grows time isPast, fun row found => notBefore row (own id held ▸ found)⟩

/-- What a session knows after an access. -/
private theorem Session.Knows.access {task rest : Task ν α} {staged written : Tables}
    (knows : session.Knows past committed knowledge) (rows : RowsPast past committed)
    (comes : Comes past past' learned) (access : Access committed task staged learned rest written)
    (punctual : task.Punctual knowledge)
    (timely : ∀ id row, staged.account? id = some row → knowledge.timely id row.updatedAt) :
    ∃ knowledge', session.Knows past' committed knowledge' ∧ rest.Punctual knowledge' ∧
      ∀ id row, written.account? id = some row → knowledge'.timely id row.updatedAt := by
  have still := knows.mono comes.grows (fun _ => id) (fun _ _ => rfl)
  cases access with
  | readAccount id next =>
      cases seen : Tables.visibleAccount? committed staged id with
      | none =>
          obtain ⟨_, absent⟩ := Option.or_eq_none_iff.mp seen
          refine ⟨knowledge.miss id, ⟨still.held, still.told, ?_⟩, punctual.1, fun other row here =>
            .inr (timely other row here)⟩
          rintro other time (⟨rfl, held, told⟩ | known)
          · refine ⟨still.held _ held, still.told _ told, fun row found => ?_⟩
            rw [absent] at found
            cases found
          · exact still.timely other time known
      | some account =>
          exact ⟨knowledge, still, punctual.2 account (Tables.id_of_visibleAccount? seen), timely⟩
  | readEntry | readHistory | takeInsertFault | newId | convert =>
      exact ⟨knowledge, still, punctual _, timely⟩
  | addEntry | sleep | note => exact ⟨knowledge, still, punctual, timely⟩
  | putAccount account =>
      refine ⟨knowledge, still, punctual.2, fun id row here => ?_⟩
      rw [Tables.account?_putAccount] at here
      split at here
      · rename_i same
        cases here
        exact same ▸ punctual.1
      · exact timely id row here
  | now next _ time =>
      obtain ⟨isPast, latest⟩ := comes.told time List.mem_cons_self
      refine ⟨knowledge.hear time, ⟨still.held, ?_, ?_⟩, punctual time, fun id row here =>
        .inr (timely id row here)⟩
      · rintro other (rfl | told)
        · exact isPast
        · exact still.told other told
      · rintro id other (⟨rfl, held⟩ | known)
        · exact ⟨still.held id held, isPast, fun row found => latest _ (rows id row found)⟩
        · exact still.timely id other known

/-- A session stays punctual by its own turns. -/
theorem Session.Punctual.turn (punctual : session.Punctual past committed) (rows : RowsPast past committed)
    (comes : Comes past past' learned) (turn : Turn committed clock session learned next after) :
    next.Punctual past' after := by
  intro task' remaining'
  have undecided := Phase.outcome_eq_none_of_remaining remaining'
  cases remaining : session.phase.remaining with
  | none =>
      obtain ⟨outcome, decided⟩ := Phase.remaining_eq_none_iff.mp remaining
      rw [turn.outcome_eq decided] at undecided
      cases undecided
  | some task =>
      obtain ⟨knowledge, knows, punctual, timely⟩ := punctual task remaining
      cases turn.works remaining with
      | stays same held staged =>
          rw [remaining'] at same
          cases same
          refine ⟨knowledge, knows.mono comes.grows ?_ fun _ _ => rfl, punctual, staged ▸ timely⟩
          rintro id ⟨lock, has⟩
          exact ⟨lock, held ▸ has⟩
      | @locks id _ _ before same holds staged =>
          rw [remaining'] at same
          cases same
          subst before
          have still : next.Knows past' committed knowledge :=
            knows.mono comes.grows (fun other has => holds ▸ .inr has) fun _ _ => rfl
          refine ⟨knowledge.lock id, ⟨?_, still.told, still.timely⟩, punctual, staged ▸ timely⟩
          rintro other (rfl | held)
          · exact holds ▸ .inl rfl
          · exact still.held other held
      | access access =>
          cases remaining'
          obtain ⟨knowledge', knows', punctual', timely'⟩ := knows.access rows comes access punctual timely
          exact ⟨knowledge', ⟨knows'.held, knows'.told, knows'.timely⟩, punctual', timely'⟩
      | lapses _ decided | publishes _ decided =>
          rw [decided] at undecided
          cases undecided

/-- It stays so when others change rows that it has not locked. -/
theorem Session.Punctual.others (punctual : session.Punctual past committed)
    (grows : ∀ time, past time → past' time)
    (own : ∀ id, session.Holds id → after.account? id = committed.account? id) :
    session.Punctual past' after := by
  intro task remaining
  obtain ⟨knowledge, knows, punctual, timely⟩ := punctual task remaining
  exact ⟨knowledge, knows.mono grows (fun _ => id) own, punctual, timely⟩

/-- A session that is yet to begin knows nothing. -/
theorem Session.Punctual.opening {work : Work ν α} (punctual : work.task.Punctual .none)
    (context : RequestContext) (start since : Nat) :
    Session.Punctual past committed ⟨context, .opening start work.task, since, [], .empty, []⟩ := by
  rintro _ ⟨rfl⟩
  refine ⟨.none, ⟨?_, ?_, ?_⟩, punctual, ?_⟩
  · rintro _ ⟨⟩
  · rintro _ ⟨⟩
  · rintro _ _ ⟨⟩
  · rintro _ _ ⟨⟩

theorem Session.Punctual.of_decided (decided : session.phase.remaining = none) :
    session.Punctual past committed := by
  intro task remaining
  rw [decided] at remaining
  cases remaining

/-- The time of a row does not go back. -/
def NotBack (before after : Tables) : Prop :=
  ∀ id old new, before.account? id = some old → after.account? id = some new →
    old.updatedAt.le new.updatedAt = true

theorem NotBack.refl (tables : Tables) : NotBack tables tables := by
  intro id old new found found'
  rw [found] at found'
  cases found'
  exact Timestamp.le_refl _

/-- A punctual session commits rows of times that are past, and not before the times of those they replace. -/
theorem Turn.rows_in_time (turn : Turn committed clock session learned next after)
    (punctual : session.Punctual past committed) (distinct : session.staged.DistinctRows)
    (rows : RowsPast past committed) : RowsPast past after ∧ NotBack committed after := by
  cases turn with
  | @publish value before =>
      obtain ⟨knowledge, knows, _, timely⟩ := punctual (.done (.ok value)) (by rw [before]; rfl)
      constructor
      · intro id row found
        rw [Tables.account?_extend distinct] at found
        rcases Option.or_eq_some_iff.mp found with written | ⟨_, old⟩
        · exact (knows.timely id _ (timely id row written)).2.1
        · exact rows id row old
      · intro id old new found found'
        rw [Tables.account?_extend distinct] at found'
        rcases Option.or_eq_some_iff.mp found' with written | ⟨_, same⟩
        · exact (knows.timely id _ (timely id new written)).2.2 old found
        · exact NotBack.refl committed id old new found same
  | _ => exact ⟨rows, .refl committed⟩

end Turns

/-! ### Punctual worlds -/

namespace World

variable {past past' : Timestamp → Prop} {world after : World ν α} {event : Event ν α}

/-- No committed row is of a time that is yet to come, and all sessions are punctual. -/
structure Punctual (past : Timestamp → Prop) (world : World ν α) : Prop where
  rows : RowsPast past world.tables
  sessions : ∀ {number : Nat} {session : Session ν α}, world.sessions[number]? = some session →
    session.Punctual past world.tables

/-- A session that has not begun joins punctual ones. -/
theorem Punctual.add (punctual : world.Punctual past) {session : Session ν α}
    (sessions : after.sessions = world.sessions ++ [session]) (tables : after.tables = world.tables)
    (new : session.Punctual past world.tables) : after.Punctual past where
  rows := tables ▸ punctual.rows
  sessions := by
    intro number other known
    rw [tables]
    rcases session_added sessions known with old | ⟨_, rfl⟩
    · exact punctual.sessions old
    · exact new

/-- Punctual sessions stay so whatever happens, and no row goes back in time, if the clock does not. -/
theorem Punctual.after? (punctual : world.Punctual past) (order : world.InOrder)
    (calls : ∀ context work, event = .called context work → work.task.Punctual .none)
    (comes : ∀ number, Comes past past' (world.toldTo number event))
    (happened : world.after? event = some after) :
    after.Punctual past' ∧ NotBack world.tables after.tables := by
  have grows := (comes 0).grows
  have rows : RowsPast past' world.tables := fun id row found => grows _ (punctual.rows id row found)
  have still : ∀ {number : Nat} {session : Session ν α}, world.sessions[number]? = some session →
      session.Punctual past' world.tables :=
    fun known => (punctual.sessions known).others grows fun _ _ => rfl
  cases after?_happens happened with
  | called context work eq world_eq =>
      subst world_eq
      exact ⟨Punctual.add ⟨rows, still⟩ rfl rfl (.opening (calls context work eq) _ _ _), .refl _⟩
  | aside sessions tables =>
      rw [tables]
      refine ⟨⟨tables ▸ rows, fun known => ?_⟩, .refl _⟩
      rw [tables]
      exact still (sessions ▸ known)
  | turned number known sessions turn =>
      obtain ⟨rows', notBack⟩ :=
        turn.rows_in_time (punctual.sessions known) (order.staged known).distinct punctual.rows
      refine ⟨⟨fun id row found => grows _ (rows' id row found), fun known' => ?_⟩, notBack⟩
      rcases session_after sessions known' with ⟨_, rfl⟩ | ⟨different, there⟩
      · exact (punctual.sessions known).turn punctual.rows (comes number) turn
      · refine (punctual.sessions there).others grows fun id holds => ?_
        refine turn.account?_of_not_holds (order.staged known) fun holds' => different ?_
        exact order.locks.exclusive there known holds holds'

end World

end Session

end Passbook

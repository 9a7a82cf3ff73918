import Mathlib.Logic.Relation
import Passbook.Proofs.Session.Waiting
/-!
# One row at a time

A task that locks one row at most over its whole life, and never sleeps, cannot keep others waiting for good:
while it waits it has locked nothing, and once it has locked its row nothing stops it.  If all tasks of a world
are like that, a session that waits waits for one that does not, and the sessions that wait for one another
never form a cycle.
-/

namespace Passbook.Session

open Store (Tables)

variable {ν α β : Type}

/-! ### Tasks -/

/-- A task locks no row over its whole life but one, `own` if it has locked it already, and it never sleeps.
The rows that it reads stand under the identifiers under which it reads them. -/
def Task.OneRow : Task ν α → Option AccountId → Prop
  | .done _, _ => True
  | .panic _, _ => True
  | .lockRow id next, own => (∀ other ∈ own, other = id) ∧ next.OneRow (some id)
  | .readAccount id next, own => ∀ row, (∀ account ∈ row, account.id = id) → (next row).OneRow own
  | .readEntry _ next, own => ∀ row, (next row).OneRow own
  | .readHistory _ _ next, own => ∀ entries, (next entries).OneRow own
  | .takeInsertFault next, own => ∀ armed, (next armed).OneRow own
  | .putAccount _ next, own => next.OneRow own
  | .addEntry _ next, own => next.OneRow own
  | .now next, own => ∀ time, (next time).OneRow own
  | .newId next, own => ∀ id, (next id).OneRow own
  | .convert _ _ next, own => ∀ answer, (next answer).OneRow own
  | .sleep _ _, _ => False
  | .note _ next, own => next.OneRow own

/-- An access leaves it so. -/
theorem Task.OneRow.access {committed staged written : Tables} {task next : Task ν α} {learned : List Reading}
    {own : Option AccountId} (oneRow : task.OneRow own)
    (access : Access committed task staged learned next written) : next.OneRow own := by
  cases access with
  | readAccount id next => exact oneRow _ fun account found => Tables.id_of_visibleAccount? found
  | readEntry | readHistory => exact oneRow _
  | takeInsertFault _ _ armed => exact oneRow armed
  | now _ _ time => exact oneRow time
  | newId _ _ id => exact oneRow id
  | convert _ _ _ _ answer => exact oneRow answer
  | putAccount | addEntry | note => exact oneRow
  | sleep => exact oneRow.elim

/-! ### Work -/

/-- The row that a store call locks. -/
def locking : Store.Call → Option AccountId
  | .accountForUpdate id | .deleteAccount id => some id
  | .createAccount account | .updateAccount account => some account.id
  | .account _ | .accountIncludingClosed _ | .createEntry _ | .entry _ | .history _ _ => none

/-- An account that is answered is the one that was asked for. -/
def Answers : (query : Store.Call) → Except LedgerError query.Answer → Prop
  | .account id, answer => ∀ account, answer = .ok account → account.id = id
  | .accountIncludingClosed id, answer => ∀ account, answer = .ok account → account.id = id
  | .accountForUpdate id, answer => ∀ account, answer = .ok account → account.id = id
  | _, _ => True

/-- Work that locks no row but one and never sleeps, and what holds of its result and of the row it has
locked. -/
def Work.OneRow (post : α → Option AccountId → Prop) : Work ν α → Option AccountId → Prop
  | .done (.ok a), own => post a own
  | .done (.error _), _ => True
  | .panic _, _ => True
  | .call query next, own => (∀ id ∈ locking query, ∀ other ∈ own, other = id) ∧
      ∀ answer, Answers query answer → (next answer).OneRow post ((locking query).or own)
  | .now next, own => ∀ time, (next time).OneRow post own
  | .newId next, own => ∀ id, (next id).OneRow post own
  | .convert _ _ next, own => ∀ answer, (next answer).OneRow post own
  | .sleep _ _, _ => False
  | .note _ next, own => next.OneRow post own

namespace Work.OneRow

variable {own : Option AccountId}

theorem bind {work : Work ν α} {f : α → Work ν β} {post : β → Option AccountId → Prop} :
    ∀ {own}, work.OneRow (fun a own => (f a).OneRow post own) own → (work >>= f).OneRow post own := by
  induction work with
  | done result =>
      intro own oneRow
      cases result with
      | ok a => exact oneRow
      | error e => trivial
  | panic text =>
      intro own _
      trivial
  | call query next inductionHypothesis =>
      rintro own ⟨free, goesOn⟩
      exact ⟨free, fun answer answers => inductionHypothesis _ (goesOn answer answers)⟩
  | now next inductionHypothesis =>
      intro own oneRow time
      exact inductionHypothesis time (oneRow time)
  | newId next inductionHypothesis =>
      intro own oneRow id
      exact inductionHypothesis id (oneRow id)
  | convert amount target next inductionHypothesis =>
      intro own oneRow answer
      exact inductionHypothesis answer (oneRow answer)
  | sleep millis next =>
      intro own oneRow
      exact oneRow.elim
  | note entry next inductionHypothesis =>
      intro own oneRow
      exact inductionHypothesis oneRow

theorem map {work : Work ν α} {f : α → β} (oneRow : work.OneRow (fun _ _ => True) own) :
    (f <$> work).OneRow (fun _ _ => True) own :=
  bind oneRow

/-- A result that may be an error. -/
theorem ofExcept {result : Except LedgerError α} {f : α → Work ν β} {post : β → Option AccountId → Prop}
    (oneRow : ∀ a, result = .ok a → (f a).OneRow post own) :
    (Work.ofExcept result >>= f).OneRow post own := by
  cases result with
  | error e => trivial
  | ok a => exact oneRow a rfl

/-- A store call that locks no other row than the one that is locked. -/
theorem ask {query : Store.Call} {f : query.Answer → Work ν β} {post : β → Option AccountId → Prop}
    (free : ∀ id ∈ locking query, ∀ other ∈ own, other = id)
    (goesOn : ∀ answer, Answers query (.ok answer) → (f answer).OneRow post ((locking query).or own)) :
    (Work.ask query >>= f).OneRow post own := by
  refine ⟨free, fun answer answers => ?_⟩
  cases answer with
  | error e => trivial
  | ok answer => exact goesOn answer answers

theorem clock {f : Timestamp → Work ν β} {post : β → Option AccountId → Prop}
    (oneRow : ∀ time, (f time).OneRow post own) : (Work.clock >>= f).OneRow post own :=
  oneRow

theorem freshId {f : Uuid → Work ν β} {post : β → Option AccountId → Prop}
    (oneRow : ∀ id, (f id).OneRow post own) : (Work.freshId >>= f).OneRow post own :=
  oneRow

private theorem id_of_requireAccount {id : AccountId} {row : Option Account} {account : Account}
    (named : ∀ account ∈ row, account.id = id) (found : Store.requireAccount id row = .ok account) :
    account.id = id :=
  named account (Store.requireAccount_eq_ok found)

private theorem id_of_requireLive {id : AccountId} {row : Option Account} {account : Account}
    (named : ∀ account ∈ row, account.id = id) (found : Store.requireLive id row = .ok account) :
    account.id = id :=
  named account (Store.requireLive_eq_ok found).1

private theorem write_oneRow {row : Except LedgerError Account} {next : Except LedgerError Unit → Task ν α}
    (oneRow : ∀ answer, (next answer).OneRow own) : (perform.write row next).OneRow own := by
  cases row with
  | error e => exact oneRow _
  | ok account => exact oneRow _

/-- The accesses of a store call lock its row and no other. -/
theorem perform {query : Store.Call} {next : Except LedgerError query.Answer → Task ν α}
    (free : ∀ id ∈ locking query, ∀ other ∈ own, other = id)
    (goesOn : ∀ answer, Answers query answer → (next answer).OneRow ((locking query).or own)) :
    (perform query next).OneRow own := by
  cases query with
  | account id => exact fun row named => goesOn _ fun account found => id_of_requireLive named found
  | accountIncludingClosed id =>
      exact fun row named => goesOn _ fun account found => id_of_requireAccount named found
  | accountForUpdate id =>
      exact ⟨free id rfl, fun row named => goesOn _ fun account found => id_of_requireLive named found⟩
  | createAccount account | updateAccount account =>
      exact ⟨free account.id rfl, fun row _ => write_oneRow fun answer => goesOn answer trivial⟩
  | deleteAccount id =>
      refine ⟨free id rfl, fun row _ => ?_⟩
      dsimp only
      split
      · exact goesOn _ trivial
      · exact fun time => write_oneRow fun answer => goesOn answer trivial
  | createEntry entry =>
      intro armed
      cases armed with
      | true => exact goesOn _ trivial
      | false =>
        intro row _
        dsimp only
        split
        · exact goesOn _ trivial
        · intro row
          dsimp only
          split
          · exact goesOn _ trivial
          · exact goesOn _ trivial
  | entry id => exact fun row => goesOn _ trivial
  | history user account => exact fun entries => goesOn _ trivial

/-- The task of such work is such a task. -/
theorem task {work : Work ν α} {post : α → Option AccountId → Prop} :
    ∀ {own}, work.OneRow post own → work.task.OneRow own := by
  induction work with
  | done | panic =>
      intro own _
      trivial
  | call query next inductionHypothesis =>
      rintro own ⟨free, goesOn⟩
      exact perform free fun answer answers => inductionHypothesis answer (goesOn answer answers)
  | now next inductionHypothesis =>
      intro own oneRow time
      exact inductionHypothesis time (oneRow time)
  | newId next inductionHypothesis =>
      intro own oneRow id
      exact inductionHypothesis id (oneRow id)
  | convert amount target next inductionHypothesis =>
      intro own oneRow answer
      exact inductionHypothesis answer (oneRow answer)
  | sleep millis next =>
      intro own oneRow
      exact oneRow.elim
  | note entry next inductionHypothesis =>
      intro own oneRow
      exact inductionHypothesis oneRow

end Work.OneRow

/-! ### Sessions -/

/-- As long as it is at work a session has locked one row at most, and what remains of its task locks no
other. -/
def Session.OneRow (session : Session ν α) : Prop :=
  ∀ task, session.phase.remaining = some task →
    ∃ own, (∀ id, session.Holds id → own = some id) ∧ task.OneRow own

namespace Session.OneRow

variable {session next : Session ν α}

/-- A session that is yet to begin. -/
theorem opening {work : Work ν α} (oneRow : work.task.OneRow none) (context : RequestContext)
    (start since : Nat) :
    Session.OneRow ⟨context, .opening start work.task, since, [], .empty, []⟩ := by
  rintro _ ⟨rfl⟩
  refine ⟨none, ?_, oneRow⟩
  rintro _ ⟨_, ⟨⟩⟩

theorem of_decided (decided : session.phase.remaining = none) : session.OneRow := by
  intro task remaining
  rw [decided] at remaining
  cases remaining

theorem of_atWork {task : Task ν α} {own : Option AccountId} (remaining : session.phase.remaining = some task)
    (held : ∀ id, session.Holds id → own = some id) (oneRow : task.OneRow own) : session.OneRow := by
  intro task' remaining'
  rw [remaining] at remaining'
  cases remaining'
  exact ⟨own, held, oneRow⟩

/-- A turn leaves it so. -/
theorem turn {committed after : Tables} {clock : Nat} {learned : List Reading} (oneRow : session.OneRow)
    (turn : Turn committed clock session learned next after) : next.OneRow := by
  cases remaining : session.phase.remaining with
  | none =>
      obtain ⟨outcome, decided⟩ := Phase.remaining_eq_none_iff.mp remaining
      exact .of_decided (Phase.remaining_of_outcome (turn.outcome_eq decided))
  | some task =>
      obtain ⟨own, held, modest⟩ := oneRow task remaining
      cases turn.works remaining with
      | stays remaining' held' =>
          have holds : next.Holds = session.Holds := by
            funext id
            simp [Session.Holds, held']
          exact .of_atWork remaining' (holds ▸ held) modest
      | @locks id _ _ before remaining' holds =>
          subst before
          refine .of_atWork remaining' ?_ modest.2
          intro other has
          rw [holds] at has
          rcases has with rfl | already
          · rfl
          · exact congrArg some (modest.1 other (held other already)).symm
      | access access => exact .of_atWork rfl held (modest.access access)
      | lapses _ decided | publishes _ decided => exact .of_decided (Phase.remaining_of_outcome decided)

/-- The row that a session is about to lock is the only one that it can have locked. -/
theorem eq_of_holds (oneRow : session.OneRow) {id other : AccountId} {rest : Task ν α}
    (remaining : session.phase.remaining = some (.lockRow id rest)) (holds : session.Holds other) :
    other = id := by
  obtain ⟨own, held, modest⟩ := oneRow _ remaining
  exact modest.1 other (held other holds)

theorem not_sleeps (oneRow : session.OneRow) {millis : Nat} {rest : Task ν α} :
    session.phase ≠ .running (.sleep millis rest) := by
  intro sleeps
  obtain ⟨_, _, modest⟩ := oneRow (.sleep millis rest) (by rw [sleeps]; rfl)
  exact modest

end Session.OneRow

/-- What remains of a session that seeks a lock begins with locking the row. -/
theorem Phase.remaining_of_seeks {phase : Phase ν α} {id : AccountId} {lock : Nat}
    (seeks : phase.Seeks id lock) : ∃ rest, phase.remaining = some (.lockRow id rest) := by
  rcases seeks with found | asked
  · cases phase with
    | acquiring _ _ next =>
        cases found
        exact ⟨next, rfl⟩
    | _ => cases found
  · cases phase with
    | waiting _ _ next =>
        cases asked
        exact ⟨next, rfl⟩
    | _ => cases asked

/-! ### Who waits for whom -/

namespace World

variable {world after : World ν α} {number other : Nat} {id : AccountId}

/-- A session waits for a row: it has asked for the lock and has not been given it. -/
def Waits (world : World ν α) (number : Nat) (id : AccountId) : Prop :=
  (∃ session lock next, world.sessions[number]? = some session ∧ session.phase = .waiting id lock next) ∧
    ¬world.HasLock number id

/-- A session waits for a row of which another session has got the lock. -/
def WaitsFor (world : World ν α) (number other : Nat) : Prop :=
  ∃ id, world.Waits number id ∧ world.HasLock other id

def OneRow (world : World ν α) : Prop :=
  ∀ (number : Nat) (session : Session ν α), world.sessions[number]? = some session → session.OneRow

/-- A session joins them. -/
theorem OneRow.add (oneRow : world.OneRow) {session : Session ν α}
    (sessions : after.sessions = world.sessions ++ [session]) (new : session.OneRow) : after.OneRow := by
  intro number other known
  rcases session_added sessions known with old | ⟨_, rfl⟩
  · exact oneRow number other old
  · exact new

/-- Every event leaves it so if a task that is called is such a task. -/
theorem OneRow.after? (oneRow : world.OneRow) {event : Event ν α}
    (calls : ∀ context work, event = .called context work → work.task.OneRow none)
    (happened : world.after? event = some after) : after.OneRow := by
  cases after?_happens happened with
  | called context work eq world_eq =>
      subst world_eq
      exact oneRow.add rfl (.opening (calls context work eq) _ _ _)
  | aside sessions =>
      intro number session known
      exact oneRow number session (sessions ▸ known)
  | turned number known sessions turn =>
      intro other session known'
      rcases session_after sessions known' with ⟨_, rfl⟩ | ⟨_, there⟩
      · exact (oneRow _ _ known).turn turn
      · exact oneRow other session there

/-- How sessions share rows without ever being stuck. -/
structure FreeOfDeadlock (world : World ν α) : Prop where
  /-- A session that locks a row again that it has locked goes on at once. -/
  again : ∀ {number : Nat} {session : Session ν α} {id : AccountId} {next : Task ν α},
    world.sessions[number]? = some session → session.phase = .running (.lockRow id next) →
      session.Holds id → ∀ around,
        world.advance number around = some (world.setPhase number session (.running next))
  /-- A session that has locked a row neither waits for a row, be it the same or another, nor is about to. -/
  content : ∀ {number : Nat} {session : Session ν α} {id id' : AccountId} {lock : Nat},
    world.sessions[number]? = some session → session.Holds id → ¬session.phase.Seeks id' lock
  /-- A session that waits for a row waits for another session, which has locked the row or has been given its
  lock, which does not wait itself, and which takes its next step whatever it is told. -/
  waits : ∀ {number : Nat} {id : AccountId}, world.Waits number id →
    ∃ holder, holder ≠ number ∧ world.HasLock holder id ∧ (∀ id', ¬world.Waits holder id') ∧
      ∀ around, world.advance holder around ≠ none
  /-- The sessions that wait for one another form no cycle. -/
  acyclic : ∀ number, ¬Relation.TransGen world.WaitsFor number number

section Sharing

variable (order : world.InOrder) (oneRow : world.OneRow)

include order oneRow

/-- A session that has locked a row seeks no lock. -/
theorem OneRow.not_seeks {session : Session ν α} (known : world.sessions[number]? = some session)
    (holds : session.Holds id) {id' : AccountId} {lock : Nat} : ¬session.phase.Seeks id' lock := by
  intro seeks
  obtain ⟨rest, remaining⟩ := Phase.remaining_of_seeks seeks
  have same : id = id' := (oneRow _ _ known).eq_of_holds remaining holds
  exact order.locks.unlocked known seeks (same ▸ holds)

/-- A session that has got a lock does not wait. -/
theorem OneRow.not_waits_of_hasLock (has : world.HasLock number id) {id' : AccountId} :
    ¬world.Waits number id' := by
  rintro ⟨⟨session, lock, next, known, waits⟩, without⟩
  have seeks : session.phase.Seeks id' lock := .inr (by rw [waits]; rfl)
  cases has with
  | locked known' holds =>
      rw [known] at known'
      cases known'
      exact oneRow.not_seeks order known holds seeks
  | given known' waits' given =>
      rw [known] at known'
      cases known'
      rw [waits] at waits'
      cases waits'
      exact without (.given known waits given)

/-- Neither does anything else stop it. -/
theorem OneRow.advances_of_hasLock (has : world.HasLock number id) (around : Surroundings) :
    world.advance number around ≠ none := by
  intro stuck
  have idle : ∀ {session : Session ν α}, world.sessions[number]? = some session → ∀ {id' lock next holder},
      session.phase = .waiting id' lock next → holder ≠ number → world.HasLock holder id' → False := by
    intro session known id' lock next holder waits different has'
    refine oneRow.not_waits_of_hasLock order has
      ⟨⟨session, lock, next, known, waits⟩, fun own => different ?_⟩
    exact has'.unique order.locks own
  cases has with
  | @locked session known holds =>
      have busy : session.held ≠ [] := by
        obtain ⟨lock, member⟩ := holds
        exact List.ne_nil_of_mem member
      have tidy := order.tidy session (List.mem_of_getElem? known)
      rcases (order.locks.advance_eq_none_iff known around).mp stuck with
        ended | ⟨opening, _⟩ | ⟨sleeps, _⟩ | ⟨waits, different, has'⟩
      · exact busy (tidy (.inr ended)).1
      · exact busy (tidy (.inl (by rw [opening]; rfl))).1
      · exact (oneRow _ _ known).not_sleeps sleeps
      · exact idle known waits different has'
  | given known waits given =>
      obtain ⟨holder, different, has'⟩ := (order.locks.advance_eq_none_of_waits known waits around).mp stuck
      exact idle known waits different has'

/-- Sessions that lock one row at most never come to a deadlock. -/
theorem OneRow.freeOfDeadlock : world.FreeOfDeadlock where
  again := by
    intro number session id next known running holds around
    simp only [advance, known, running, Option.bind_eq_bind, Option.bind_some, access,
      Session.holds_iff.mpr holds, if_true]
    rfl
  content known holds := oneRow.not_seeks order known holds
  waits := by
    rintro number id ⟨⟨session, lock, next, known, waits⟩, without⟩
    obtain ⟨holder, _, _, has⟩ := order.locks.hasLock_of_waits known waits
    refine ⟨holder, ?_, has, fun _ => oneRow.not_waits_of_hasLock order has,
      oneRow.advances_of_hasLock order has⟩
    rintro rfl
    exact without has
  acyclic := by
    -- Whoever is waited for has got a lock, and does not wait.
    have last : ∀ {first second third}, world.WaitsFor first second → ¬world.WaitsFor second third := by
      rintro first second third ⟨id, _, has⟩ ⟨id', waits, _⟩
      exact oneRow.not_waits_of_hasLock order has waits
    intro number cycle
    obtain ⟨_, first, _⟩ := Relation.TransGen.head'_iff.mp cycle
    obtain ⟨_, _, final⟩ := Relation.TransGen.tail'_iff.mp cycle
    exact last final first

end Sharing

end World

end Passbook.Session

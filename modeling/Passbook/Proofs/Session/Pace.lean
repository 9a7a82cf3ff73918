import Passbook.Proofs.Session.Steps
/-!
# How long a session takes

A bound on the steps that a task takes, whatever it finds and is told on its way, and with it on the steps
that are left to a session.  Every step that a session takes leaves it one less.  Nothing is said of tasks that
sleep: they wait for time to pass.
-/

namespace Passbook.Session

open Store (Call)

variable {ν α β : Type}

/-! ### Tasks -/

/-- The steps it takes to lock a row and to give up the lock: to find the lock, to ask for it, to get it, and
to release it. -/
def lockSteps : Nat := 4

/-- A task takes no more than so many steps, and does not sleep. -/
def Task.Brief : Task ν α → Nat → Prop
  | .done _, _ | .panic _, _ => True
  | .lockRow _ next, steps => ∃ rest, rest + lockSteps ≤ steps ∧ next.Brief rest
  | .readAccount _ next, steps => ∃ rest, rest < steps ∧ ∀ row, (next row).Brief rest
  | .readEntry _ next, steps => ∃ rest, rest < steps ∧ ∀ row, (next row).Brief rest
  | .readHistory _ _ next, steps => ∃ rest, rest < steps ∧ ∀ entries, (next entries).Brief rest
  | .takeInsertFault next, steps => ∃ rest, rest < steps ∧ ∀ armed, (next armed).Brief rest
  | .putAccount _ next, steps | .addEntry _ next, steps | .note _ next, steps =>
      ∃ rest, rest < steps ∧ next.Brief rest
  | .now next, steps => ∃ rest, rest < steps ∧ ∀ time, (next time).Brief rest
  | .newId next, steps => ∃ rest, rest < steps ∧ ∀ id, (next id).Brief rest
  | .convert _ _ next, steps => ∃ rest, rest < steps ∧ ∀ answer, (next answer).Brief rest
  | .sleep _ _, _ => False

/-- What takes no more than so many steps takes no more than more. -/
theorem Task.Brief.mono {task : Task ν α} {steps more : Nat} (brief : task.Brief steps)
    (longer : steps ≤ more) : task.Brief more := by
  cases task with
  | done | panic => trivial
  | sleep => exact brief
  | lockRow =>
      obtain ⟨rest, enough, brief⟩ := brief
      exact ⟨rest, Nat.le_trans enough longer, brief⟩
  | _ =>
      obtain ⟨rest, enough, brief⟩ := brief
      exact ⟨rest, Nat.lt_of_lt_of_le enough longer, brief⟩

/-! ### Work -/

/-- How many steps a store call takes at most. -/
def callSteps : Call → Nat
  | .account _ | .accountIncludingClosed _ | .entry _ | .history _ _ => 1
  | .accountForUpdate _ => lockSteps + 1
  | .createAccount _ | .updateAccount _ => lockSteps + 2
  | .deleteAccount _ => lockSteps + 3
  | .createEntry _ => 4

/-- Work takes no more than so many steps and does not sleep, and so much holds of its result and of the steps
that are left. -/
def Work.Brief (post : α → Nat → Prop) : Work ν α → Nat → Prop
  | .done (.ok a), steps => post a steps
  | .done (.error _), _ => True
  | .panic _, _ => True
  | .call query next, steps =>
      ∃ rest, rest + callSteps query ≤ steps ∧ ∀ answer, (next answer).Brief post rest
  | .now next, steps => ∃ rest, rest < steps ∧ ∀ time, (next time).Brief post rest
  | .newId next, steps => ∃ rest, rest < steps ∧ ∀ id, (next id).Brief post rest
  | .convert _ _ next, steps => ∃ rest, rest < steps ∧ ∀ answer, (next answer).Brief post rest
  | .note _ next, steps => ∃ rest, rest < steps ∧ next.Brief post rest
  | .sleep _ _, _ => False

namespace Work.Brief

variable {steps : Nat}

theorem bind {work : Work ν α} {f : α → Work ν β} {post : β → Nat → Prop} :
    ∀ {steps}, work.Brief (fun a steps => (f a).Brief post steps) steps →
      (work >>= f).Brief post steps := by
  change ∀ {steps}, work.Brief (fun a steps => (f a).Brief post steps) steps →
    (work.bind f).Brief post steps
  induction work with
  | done result =>
      intro steps brief
      cases result with
      | error e => trivial
      | ok a => exact brief
  | panic text =>
      intro steps _
      trivial
  | sleep millis next => exact False.elim
  | call query next inductionHypothesis =>
      rintro steps ⟨rest, enough, brief⟩
      exact ⟨rest, enough, fun answer => inductionHypothesis answer (brief answer)⟩
  | now next inductionHypothesis | newId next inductionHypothesis
  | convert amount target next inductionHypothesis =>
      rintro steps ⟨rest, enough, brief⟩
      exact ⟨rest, enough, fun found => inductionHypothesis found (brief found)⟩
  | note entry next inductionHypothesis =>
      rintro steps ⟨rest, enough, brief⟩
      exact ⟨rest, enough, inductionHypothesis brief⟩

theorem map {work : Work ν α} {f : α → β} (brief : work.Brief (fun _ _ => True) steps) :
    (f <$> work).Brief (fun _ _ => True) steps :=
  bind brief

/-- A result that may be an error. -/
theorem ofExcept {result : Except LedgerError α} {f : α → Work ν β} {post : β → Nat → Prop}
    (brief : ∀ a, (f a).Brief post steps) : (Work.ofExcept result >>= f).Brief post steps := by
  cases result with
  | error e => trivial
  | ok a => exact brief a

/-- A store call. -/
theorem ask {call : Call} {f : call.Answer → Work ν β} {post : β → Nat → Prop} (rest : Nat)
    (enough : rest + callSteps call ≤ steps) (brief : ∀ a, (f a).Brief post rest) :
    (Work.ask call >>= f).Brief post steps :=
  ⟨rest, enough, fun _ => ofExcept brief⟩

/-- A result that may be an error, and nothing behind it. -/
theorem of_result (result : Except LedgerError α) (steps : Nat) :
    (Work.done result : Work ν α).Brief (fun _ _ => True) steps := by
  cases result <;> trivial

theorem mono {work : Work ν α} {more : Nat} (brief : work.Brief (fun _ _ => True) steps)
    (longer : steps ≤ more) : work.Brief (fun _ _ => True) more := by
  cases work with
  | done result => exact of_result result more
  | panic => trivial
  | sleep => exact brief
  | call query next =>
      obtain ⟨rest, enough, brief⟩ := brief
      exact ⟨rest, Nat.le_trans enough longer, brief⟩
  | _ =>
      obtain ⟨rest, enough, brief⟩ := brief
      exact ⟨rest, Nat.lt_of_lt_of_le enough longer, brief⟩

/-- A store call, and nothing behind it. -/
theorem of_ask (call : Call) : (Work.ask call : Work ν call.Answer).Brief (fun _ _ => True) (callSteps call) :=
  ⟨0, Nat.le_of_eq (Nat.zero_add _), fun answer => of_result answer 0⟩

theorem clock {f : Timestamp → Work ν β} {post : β → Nat → Prop} (rest : Nat) (enough : rest < steps)
    (brief : ∀ time, (f time).Brief post rest) : (Work.clock >>= f).Brief post steps :=
  ⟨rest, enough, brief⟩

theorem freshId {f : Uuid → Work ν β} {post : β → Nat → Prop} (rest : Nat) (enough : rest < steps)
    (brief : ∀ id, (f id).Brief post rest) : (Work.freshId >>= f).Brief post steps :=
  ⟨rest, enough, brief⟩

private theorem write {row : Except LedgerError Account} {next : Except LedgerError Unit → Task ν α}
    {rest : Nat} (enough : rest < steps) (onward : ∀ answer, (next answer).Brief rest) :
    (perform.write row next).Brief steps := by
  cases row with
  | error e => exact (onward _).mono (Nat.le_of_lt enough)
  | ok account => exact ⟨rest, enough, onward _⟩

/-- The accesses of a call. -/
private theorem perform {query : Call} {next : Except LedgerError query.Answer → Task ν α} {rest : Nat}
    (enough : rest + callSteps query ≤ steps) (onward : ∀ answer, (next answer).Brief rest) :
    (perform query next).Brief steps := by
  cases query with
  | account | accountIncludingClosed | entry | history =>
      exact ⟨rest, enough, fun _ => onward _⟩
  | accountForUpdate id =>
      exact ⟨rest + 1, enough, rest, Nat.lt_succ_self rest, fun _ => onward _⟩
  | createAccount account | updateAccount account =>
      exact ⟨rest + 2, enough, rest + 1, Nat.lt_succ_self _,
        fun row => write (Nat.lt_succ_self rest) onward⟩
  | deleteAccount id =>
      refine ⟨rest + 3, enough, rest + 2, Nat.lt_succ_self _, fun row => ?_⟩
      dsimp only
      split
      · exact (onward _).mono (Nat.le_add_right rest 2)
      · exact ⟨rest + 1, Nat.lt_succ_self _, fun time => write (Nat.lt_succ_self rest) onward⟩
  | createEntry entry =>
      refine ⟨rest + 3, enough, fun armed => ?_⟩
      cases armed with
      | true => exact (onward _).mono (Nat.le_add_right rest 3)
      | false =>
          refine ⟨rest + 2, Nat.lt_succ_self _, fun row => ?_⟩
          dsimp only
          split
          · exact (onward _).mono (Nat.le_add_right rest 2)
          · refine ⟨rest + 1, Nat.lt_succ_self _, fun row => ?_⟩
            dsimp only
            split
            · exact (onward _).mono (Nat.le_add_right rest 1)
            · exact ⟨rest, Nat.lt_succ_self rest, onward _⟩

/-- The task of work takes no longer than the work. -/
theorem task {work : Work ν α} {post : α → Nat → Prop} :
    ∀ {steps}, work.Brief post steps → work.task.Brief steps := by
  induction work with
  | done | panic =>
      intro steps _
      trivial
  | sleep millis next => exact False.elim
  | call query next inductionHypothesis =>
      rintro steps ⟨rest, enough, brief⟩
      exact perform enough fun answer => inductionHypothesis answer (brief answer)
  | now next inductionHypothesis | newId next inductionHypothesis
  | convert amount target next inductionHypothesis =>
      rintro steps ⟨rest, enough, brief⟩
      exact ⟨rest, enough, fun found => inductionHypothesis found (brief found)⟩
  | note entry next inductionHypothesis =>
      rintro steps ⟨rest, enough, brief⟩
      exact ⟨rest, enough, inductionHypothesis brief⟩

end Work.Brief

/-! ### Sessions -/

/-- No more than so many steps are left to a session until it is over.  Behind its work there are the steps to
its result, to the check of its time, to the commit, to the publication, out of it, one for every lock, and the
last. -/
def Session.Brief (session : Session ν α) (steps : Nat) : Prop :=
  match session.phase with
  | .opening _ task => ∃ rest, rest + session.held.length + 7 ≤ steps ∧ task.Brief rest
  | .running task => ∃ rest, rest + session.held.length + 6 ≤ steps ∧ task.Brief rest
  | .acquiring _ _ next => ∃ rest, rest + session.held.length + 9 ≤ steps ∧ next.Brief rest
  | .waiting _ _ next => ∃ rest, rest + session.held.length + 8 ≤ steps ∧ next.Brief rest
  | .closing _ => session.held.length + 5 ≤ steps
  | .committing _ => session.held.length + 4 ≤ steps
  | .publishing _ => session.held.length + 3 ≤ steps
  | .releasing _ => session.held.length + 1 ≤ steps
  | .finished _ => True

/-- A session to which no steps are left is over. -/
theorem Session.Brief.isOver {session : Session ν α} (brief : session.Brief 0) : session.IsOver := by
  unfold Session.Brief at brief
  cases phase : session.phase with
  | finished outcome => exact ⟨outcome, phase⟩
  | opening | running | acquiring | waiting =>
      rw [phase] at brief
      obtain ⟨rest, enough, _⟩ := brief
      omega
  | closing | committing | publishing | releasing =>
      rw [phase] at brief
      simp only at brief
      omega

namespace World

variable {world after : World ν α} {number : Nat} {session : Session ν α} {around : Surroundings}
  {steps : Nat}

/-- An access leaves a session fewer steps. -/
private theorem access_brief {task : Task ν α} {left : Nat} (known : world.sessions[number]? = some session)
    (enough : left + session.held.length + 6 ≤ steps + 1) (brief : task.Brief left)
    (moved : world.access number session around task = some after) :
    ∃ next, after.sessions[number]? = some next ∧ next.Brief steps := by
  obtain ⟨bound, _⟩ := List.getElem?_eq_some_iff.mp known
  have running : ∀ {next : Session ν α} {rest : Task ν α} {fewer : Nat}, next.phase = .running rest →
      next.held = session.held → fewer < left → rest.Brief fewer → next.Brief steps := by
    intro next rest fewer phase held less brief
    unfold Session.Brief
    rw [phase, held]
    exact ⟨fewer, by omega, brief⟩
  cases task with
  | done result =>
      cases moved
      refine ⟨_, List.getElem?_set_self bound, ?_⟩
      show session.held.length + 5 ≤ steps
      omega
  | panic text =>
      cases moved
      refine ⟨_, List.getElem?_set_self bound, ?_⟩
      show session.held.length + 1 ≤ steps
      omega
  | lockRow id next =>
      obtain ⟨rest, locking, brief⟩ := brief
      unfold lockSteps at locking
      simp only [access] at moved
      split at moved
      · cases moved
        exact ⟨_, List.getElem?_set_self bound, running rfl rfl (by omega) brief⟩
      · cases moved
        refine ⟨_, List.getElem?_set_self (by rwa [sessions_findLock]), ?_⟩
        exact ⟨rest, by show rest + session.held.length + 9 ≤ steps; omega, brief⟩
  | sleep => exact brief.elim
  | putAccount | addEntry | note =>
      obtain ⟨fewer, less, brief⟩ := brief
      cases moved
      exact ⟨_, List.getElem?_set_self bound, running rfl rfl less brief⟩
  | _ =>
      obtain ⟨fewer, less, brief⟩ := brief
      cases moved
      exact ⟨_, List.getElem?_set_self bound, running rfl rfl less (brief _)⟩

/-- A step of a session leaves it fewer steps. -/
theorem advance_brief (known : world.sessions[number]? = some session) (brief : session.Brief (steps + 1))
    (moved : world.advance number around = some after) :
    ∃ next, after.sessions[number]? = some next ∧ next.Brief steps := by
  obtain ⟨bound, _⟩ := List.getElem?_eq_some_iff.mp known
  simp only [advance, known, Option.bind_eq_bind, Option.bind_some] at moved
  unfold Session.Brief at brief
  cases phase : session.phase with
  | running task =>
      rw [phase] at moved brief
      obtain ⟨left, enough, brief⟩ := brief
      exact access_brief known enough brief moved
  | opening start task =>
      simp only [phase] at moved brief
      obtain ⟨left, enough, brief⟩ := brief
      split at moved
      · cases moved
      · split at moved
        · cases moved
          exact ⟨_, List.getElem?_set_self bound, trivial⟩
        · cases moved
          exact ⟨_, List.getElem?_set_self bound, left, Nat.le_of_succ_le_succ enough, brief⟩
  | acquiring id lock rest =>
      simp only [phase] at moved brief
      obtain ⟨left, enough, brief⟩ := brief
      split at moved
      · cases moved
        refine ⟨_, List.getElem?_set_self bound, left, ?_, brief⟩
        rw [List.length_cons]
        omega
      · cases moved
        exact ⟨_, List.getElem?_set_self bound, left, Nat.le_of_succ_le_succ enough, brief⟩
  | waiting id lock rest =>
      simp only [phase] at moved brief
      obtain ⟨left, enough, brief⟩ := brief
      split at moved
      · split at moved
        · cases moved
          refine ⟨_, List.getElem?_set_self bound, left, ?_, brief⟩
          rw [List.length_cons]
          omega
        · cases moved
      · cases moved
  | closing result =>
      simp only [phase] at moved brief
      cases result with
      | error e =>
          cases moved
          refine ⟨_, List.getElem?_set_self bound, ?_⟩
          show session.held.length + 1 ≤ steps
          omega
      | ok value =>
          simp only at moved
          split at moved
          · cases moved
            refine ⟨_, List.getElem?_set_self bound, ?_⟩
            show session.held.length + 1 ≤ steps
            omega
          · cases moved
            exact ⟨_, List.getElem?_set_self bound, Nat.le_of_succ_le_succ brief⟩
  | committing value =>
      simp only [phase] at moved brief
      split at moved
      · cases moved
        refine ⟨_, List.getElem?_set_self bound, ?_⟩
        show session.held.length + 1 ≤ steps
        omega
      · cases moved
        exact ⟨_, List.getElem?_set_self bound, Nat.le_of_succ_le_succ brief⟩
  | publishing value =>
      simp only [phase] at moved brief
      cases moved
      refine ⟨_, List.getElem?_set_self bound, ?_⟩
      show session.held.length + 1 ≤ steps
      omega
  | releasing outcome =>
      simp only [phase] at moved brief
      split at moved
      · cases moved
        exact ⟨_, List.getElem?_set_self bound, trivial⟩
      · rename_i id lock rest held
        cases moved
        refine ⟨{ session with held := session.held.tail }, ?_, ?_⟩
        · rw [releaseFirst, sessions_forgetUnused]
          exact List.getElem?_set_self bound
        · unfold Session.Brief
          rw [phase]
          rw [held, List.length_cons] at brief
          simp only [held, List.tail_cons]
          omega
  | finished outcome =>
      simp only [phase] at moved
      cases moved

end World

end Passbook.Session

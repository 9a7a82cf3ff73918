import Passbook.Proofs.Session.Events
/-!
# Looking

Work that only looks at committed tables, and that nobody disturbs, needs as many steps as it looks, and a few
more to begin and to end.  It waits for nobody, whatever the other sessions have locked, and it leaves
everything as it was.
-/

namespace Passbook.Session

open Store (Tables)

variable {ν α : Type}

/-- A task comes to a value by looking at the tables so many times, and does nothing else. -/
inductive Task.Sees (tables : Tables) : Task ν α → Nat → α → Prop where
  | done (value : α) : Sees tables (.done (.ok value)) 0 value
  | readAccount {id : AccountId} {next : Option Account → Task ν α} {looks : Nat} {value : α}
      (goesOn : (next (tables.account? id)).Sees tables looks value) :
      Sees tables (.readAccount id next) (looks + 1) value
  | readEntry {id : TransactionId} {next : Option LedgerEntry → Task ν α} {looks : Nat} {value : α}
      (goesOn : (next (tables.entry? id)).Sees tables looks value) :
      Sees tables (.readEntry id next) (looks + 1) value
  | readHistory {user : UserId} {account : AccountId} {next : List LedgerEntry → Task ν α} {looks : Nat}
      {value : α} (goesOn : (next (tables.history user account)).Sees tables looks value) :
      Sees tables (.readHistory user account next) (looks + 1) value

/-- A session that has locked nothing and staged nothing, in some phase. -/
def Session.looking (context : RequestContext) (since : Nat) (phase : Phase ν α) : Session ν α :=
  ⟨context, phase, since, [], .empty, []⟩

namespace World

variable {world : World ν α} {context : RequestContext}

/-- The world with one more session, which has locked nothing and staged nothing. -/
def looking (world : World ν α) (context : RequestContext) (phase : Phase ν α) : World ν α :=
  { world with sessions := world.sessions ++ [.looking context world.clock phase] }

private theorem looking_known (phase : Phase ν α) :
    (world.looking context phase).sessions[world.sessions.length]? =
      some (.looking context world.clock phase) :=
  List.getElem?_concat_length

/-- A session that was added last comes to another phase. -/
private theorem setPhase_looking (phase phase' : Phase ν α) :
    (world.looking context phase).setPhase world.sessions.length (.looking context world.clock phase) phase' =
      world.looking context phase' := by
  simp [looking, setPhase, setSession, Session.looking]

/-- It goes from phase to phase by its own steps, whatever its surroundings answer. -/
private inductive Onward (world : World ν α) (context : RequestContext) :
    Phase ν α → Nat → Phase ν α → Prop where
  | arrived (phase : Phase ν α) : Onward world context phase 0 phase
  | step {phase last : Phase ν α} {count : Nat} (middle : Phase ν α)
      (moved : ∀ around, (world.looking context phase).advance world.sessions.length around =
        some (world.looking context middle))
      (onward : Onward world context middle count last) : Onward world context phase (count + 1) last

private theorem Onward.run? {phase last : Phase ν α} {arounds : List Surroundings} {count : Nat}
    (onward : world.Onward context phase count last) (length : arounds.length = count) :
    (world.looking context phase).run? (arounds.map (.advanced world.sessions.length)) =
      some (world.looking context last) := by
  induction onward generalizing arounds with
  | arrived =>
      rw [List.length_eq_zero_iff.mp length]
      rfl
  | step middle moved _ inductionHypothesis =>
      obtain ⟨around, rest, rfl⟩ := List.exists_cons_of_length_eq_add_one length
      have length' : rest.length = _ := Nat.succ.inj length
      simp only [World.run?, List.map_cons, List.foldlM_cons, after?, moved]
      exact inductionHypothesis length'

/-- A result that is there is committed and given back, which leaves everything as it was. -/
private theorem onward_of_result (value : α) (inTime : context.isExpired world.clock = false)
    (unarmed : world.faults.commit = false) :
    world.Onward context (.running (.done (.ok value))) 5 (.finished (.completed value)) := by
  have inTime' (phase : Phase ν α) : context.isExpired (world.looking context phase).clock = false := inTime
  have unarmed' (phase : Phase ν α) : (world.looking context phase).faults.commit = false := unarmed
  refine .step (.closing (.ok value)) ?_ (.step (.committing value) ?_ (.step (.publishing value) ?_
    (.step (.releasing (.completed value)) ?_ (.step _ ?_ (.arrived _))))) <;> intro around
  · simp only [advance, looking_known, Option.bind_eq_bind, Option.bind_some, Session.looking, access]
    exact congrArg some (setPhase_looking _ _)
  · simp only [advance, looking_known, Option.bind_eq_bind, Option.bind_some, Session.looking, inTime',
      Bool.false_eq_true, if_false]
    exact congrArg some (setPhase_looking _ _)
  · simp only [advance, looking_known, Option.bind_eq_bind, Option.bind_some, Session.looking, unarmed',
      Bool.false_eq_true, if_false]
    exact congrArg some (setPhase_looking _ _)
  · simp only [advance, looking_known, Option.bind_eq_bind, Option.bind_some, Session.looking,
      Tables.extend_empty]
    show some ((world.looking context (.publishing value)).setPhase world.sessions.length
      (.looking context world.clock (.publishing value)) (.releasing (.completed value))) = _
    rw [setPhase_looking]
  · simp only [advance, looking_known, Option.bind_eq_bind, Option.bind_some, Session.looking]
    exact congrArg some (setPhase_looking _ _)

/-- A task that looks comes to its value. -/
private theorem onward_of_sees {task : Task ν α} {looks : Nat} {value : α}
    (sees : task.Sees world.tables looks value) (inTime : context.isExpired world.clock = false)
    (unarmed : world.faults.commit = false) :
    world.Onward context (.running task) (looks + 5) (.finished (.completed value)) := by
  induction sees with
  | done value => exact onward_of_result value inTime unarmed
  | readAccount _ onward | readEntry _ onward | readHistory _ onward =>
      rw [Nat.add_right_comm]
      refine .step _ (fun around => ?_) onward
      simp only [advance, looking_known, Option.bind_eq_bind, Option.bind_some, Session.looking, access,
        Tables.visibleHistory_empty]
      exact congrArg some (setPhase_looking _ _)

/-- Work that only looks is carried out by its own steps, if no fault is armed and its time is not over: it
completes with what it sees, and everything else is as it was. -/
theorem run?_looking {work : Work ν α} {looks : Nat} {value : α}
    (sees : work.task.Sees world.tables looks value) (inTime : context.isExpired world.clock = false)
    (noBegin : world.faults.begin = false) (noCommit : world.faults.commit = false)
    {arounds : List Surroundings} (length : arounds.length = looks + 6) :
    (world.call context world.clock work).run? (arounds.map (.advanced world.sessions.length)) =
      some (world.looking context (.finished (.completed value))) := by
  have noBegin' (phase : Phase ν α) : (world.looking context phase).faults.begin = false := noBegin
  have due (phase : Phase ν α) : ¬(world.looking context phase).clock < world.clock := Nat.lt_irrefl _
  have opened (around : Surroundings) : (world.looking context (.opening world.clock work.task)).advance
      world.sessions.length around = some (world.looking context (.running work.task)) := by
    simp only [advance, looking_known, Option.bind_eq_bind, Option.bind_some, Session.looking, due, noBegin',
      Bool.false_eq_true, if_false]
    exact congrArg some (setPhase_looking _ _)
  exact (Onward.step _ opened (onward_of_sees sees inTime noCommit)).run? length

end World

end Passbook.Session

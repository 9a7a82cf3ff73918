import Passbook.Proofs.Session.Events
import Passbook.Proofs.Session.Likeness
/-!
# Twin worlds

Two worlds are twins if they have the same sessions and the same locks, and tables that look alike to the user
for whom all the sessions work.  As long as that work is discreet, whatever happens in one of them can happen
in the other as well, and leaves them twins: no session is told or shown anything by which it could know in
which of the two it is.
-/

namespace Passbook.Session

open Store (Tables)

variable {ν α : Type}

/-! ### The same steps on other tables -/

/-- The next access of a task finds the same in two pairs of tables, or what makes no difference to it. -/
def Task.Indifferent (one other staged : Tables) : Task ν α → Prop
  | .readAccount id next =>
      next (Tables.visibleAccount? one staged id) = next (Tables.visibleAccount? other staged id)
  | .readEntry id next =>
      next (Tables.visibleEntry? one staged id) = next (Tables.visibleEntry? other staged id)
  | .readHistory user account next =>
      next (Tables.visibleHistory one staged user account) =
        next (Tables.visibleHistory other staged user account)
  | _ => True

namespace World

variable {world after : World ν α} {number : Nat} {session : Session ν α} {around : Surroundings}
  {other : Tables}

/-- The world with other committed tables. -/
def withTables (world : World ν α) (tables : Tables) : World ν α := { world with tables := tables }

/-- What is committed in one pair of tables is committed in the other. -/
inductive CommitsAlike (world : World ν α) (other : Tables) : Tables → Tables → Prop where
  | nothing : CommitsAlike world other world.tables other
  | published {number : Nat} {session : Session ν α} {value : α}
      (known : world.sessions[number]? = some session) (publishing : session.phase = .publishing value) :
      CommitsAlike world other (world.tables.extend session.staged) (other.extend session.staged)

/-- The next access of every session is indifferent to other tables. -/
def Indifferent (world : World ν α) (other : Tables) : Prop :=
  ∀ {number : Nat} {session : Session ν α} {task : Task ν α}, world.sessions[number]? = some session →
    session.phase = .running task → task.Indifferent world.tables other session.staged

theorem withTables_findLock (world : World ν α) (other : Tables) (id : AccountId) :
    (world.withTables other).findLock id = ((world.findLock id).1, (world.findLock id).2.withTables other) := by
  unfold findLock
  have same : (world.withTables other).registry = world.registry := rfl
  rw [same]
  cases world.registry.lookup id <;> rfl

theorem withTables_forgetUnused (world : World ν α) (other : Tables) (id : AccountId) :
    (world.withTables other).forgetUnused id = (world.forgetUnused id).withTables other := by
  unfold forgetUnused
  have same : (world.withTables other).registry = world.registry := rfl
  rw [same]
  cases world.registry.lookup id with
  | none => rfl
  | some lock =>
      have sessions : (world.withTables other).sessions = world.sessions := rfl
      simp only [sessions]
      split <;> rfl

theorem withTables_releaseFirst (world : World ν α) (number : Nat) (session : Session ν α) (id : AccountId)
    (lock : Nat) :
    (world.withTables other).releaseFirst number session id lock =
      (world.releaseFirst number session id lock).withTables other := by
  unfold releaseFirst
  rw [← withTables_forgetUnused]
  rfl

/-- An access that is indifferent to other tables is the same there. -/
theorem access_withTables {task : Task ν α}
    (indifferent : task.Indifferent world.tables other session.staged)
    (moved : world.access number session around task = some after) :
    (world.withTables other).access number session around task = some (after.withTables other) ∧
      after.tables = world.tables := by
  cases task with
  | readAccount id next =>
      have same : next (Tables.visibleAccount? world.tables session.staged id) =
          next (Tables.visibleAccount? other session.staged id) := indifferent
      simp only [access, same] at moved
      cases moved
      exact ⟨rfl, rfl⟩
  | readEntry id next =>
      have same : next (Tables.visibleEntry? world.tables session.staged id) =
          next (Tables.visibleEntry? other session.staged id) := indifferent
      simp only [access, same] at moved
      cases moved
      exact ⟨rfl, rfl⟩
  | readHistory user account next =>
      have same : next (Tables.visibleHistory world.tables session.staged user account) =
          next (Tables.visibleHistory other session.staged user account) := indifferent
      simp only [access, same] at moved
      cases moved
      exact ⟨rfl, rfl⟩
  | lockRow id next =>
      simp only [access, withTables_findLock] at moved ⊢
      split at moved
      · rename_i holds
        cases moved
        rw [if_pos holds]
        exact ⟨rfl, rfl⟩
      · rename_i free
        cases moved
        rw [if_neg free]
        exact ⟨rfl, tables_findLock world id⟩
  | sleep millis next =>
      simp only [access] at moved ⊢
      split at moved
      · cases moved
      · rename_i expired
        cases moved
        exact ⟨if_neg expired, rfl⟩
  | _ =>
      cases moved
      exact ⟨rfl, rfl⟩

/-- In a world that is indifferent to other tables every step is the same there, and commits the same. -/
theorem advance_withTables (indifferent : world.Indifferent other)
    (moved : world.advance number around = some after) :
    ∃ other', (world.withTables other).advance number around = some (after.withTables other') ∧
      world.CommitsAlike other after.tables other' := by
  unfold advance at moved ⊢
  obtain ⟨session, known, moved⟩ := Option.bind_eq_some_iff.mp moved
  have known' : (world.withTables other).sessions[number]? = some session := known
  have clock : (world.withTables other).clock = world.clock := rfl
  have locks : (world.withTables other).locks = world.locks := rfl
  have faults : (world.withTables other).faults = world.faults := rfl
  simp only [known', Option.bind_eq_bind, Option.bind_some, clock, locks, faults]
  cases phase : session.phase with
  | running task =>
      rw [phase] at moved
      obtain ⟨same, tables⟩ := access_withTables (indifferent known phase) moved
      exact ⟨other, same, tables ▸ .nothing⟩
  | opening start task =>
      simp only [phase] at moved ⊢
      split at moved
      · cases moved
      · rename_i begun
        rw [if_neg begun]
        split at moved
        · rename_i armed
          cases moved
          rw [if_pos armed]
          exact ⟨other, rfl, .nothing⟩
        · rename_i unarmed
          cases moved
          rw [if_neg unarmed]
          exact ⟨other, rfl, .nothing⟩
  | acquiring id lock next =>
      simp only [phase] at moved ⊢
      split at moved <;> cases moved <;> exact ⟨other, rfl, .nothing⟩
  | waiting id lock next =>
      simp only [phase] at moved ⊢
      split at moved
      · split at moved
        · rename_i mine
          cases moved
          rw [if_pos mine]
          exact ⟨other, rfl, .nothing⟩
        · cases moved
      · cases moved
  | closing result =>
      cases result with
      | error e =>
          simp only [phase] at moved ⊢
          cases moved
          exact ⟨other, rfl, .nothing⟩
      | ok value =>
          simp only [phase] at moved ⊢
          split at moved
          · rename_i late
            cases moved
            rw [if_pos late]
            exact ⟨other, rfl, .nothing⟩
          · rename_i inTime
            cases moved
            rw [if_neg inTime]
            exact ⟨other, rfl, .nothing⟩
  | committing value =>
      simp only [phase] at moved ⊢
      split at moved
      · rename_i armed
        cases moved
        rw [if_pos armed]
        exact ⟨other, rfl, .nothing⟩
      · rename_i unarmed
        cases moved
        rw [if_neg unarmed]
        exact ⟨other, rfl, .nothing⟩
  | publishing value =>
      simp only [phase] at moved ⊢
      cases moved
      exact ⟨other.extend session.staged, rfl, .published known phase⟩
  | releasing outcome =>
      simp only [phase] at moved ⊢
      split at moved
      · cases moved
        exact ⟨other, rfl, .nothing⟩
      · rename_i id lock rest held
        cases moved
        refine ⟨other, congrArg some (withTables_releaseFirst world number session id lock), ?_⟩
        rw [releaseFirst, tables_forgetUnused]
        exact .nothing
  | finished outcome =>
      simp only [phase] at moved
      cases moved

theorem breakOff_withTables (other : Tables) {outcome : Outcome α}
    (broken : world.breakOff number outcome = some after) :
    (world.withTables other).breakOff number outcome = some (after.withTables other) ∧
      after.tables = world.tables := by
  unfold breakOff at broken ⊢
  obtain ⟨session, known, broken⟩ := Option.bind_eq_some_iff.mp broken
  have known' : (world.withTables other).sessions[number]? = some session := known
  simp only [known', Option.bind_eq_bind, Option.bind_some]
  split at broken <;> cases broken <;> exact ⟨rfl, rfl⟩

/-- In a world that is indifferent to other tables every event is the same there, and commits the same. -/
theorem after?_withTables {event : Event ν α} (indifferent : world.Indifferent other)
    (happened : world.after? event = some after) :
    ∃ other', (world.withTables other).after? event = some (after.withTables other') ∧
      world.CommitsAlike other after.tables other' := by
  cases event with
  | called context work =>
      cases happened
      exact ⟨other, rfl, .nothing⟩
  | advanced number around => exact advance_withTables indifferent happened
  | expired number =>
      obtain ⟨session, known, expired⟩ := Option.bind_eq_some_iff.mp happened
      split at expired
      · rename_i overdue
        obtain ⟨same, tables⟩ := breakOff_withTables other expired
        refine ⟨other, ?_, tables ▸ .nothing⟩
        exact Option.bind_eq_some_iff.mpr ⟨session, known, (if_pos overdue).trans same⟩
      · cases expired
  | cancelled number =>
      obtain ⟨same, tables⟩ := breakOff_withTables other happened
      exact ⟨other, same, tables ▸ .nothing⟩
  | ticked millis | armed faults =>
      cases happened
      exact ⟨other, rfl, .nothing⟩

end World

/-! ### Sessions that are discreet -/

section Sessions

variable {user : UserId} {known : Prop} {fresh : Uuid → Prop} {one other staged : Tables}

/-- What is found under an identifier is an account of the user's. -/
def Owned (user : UserId) (committed staged : Tables) (id : AccountId) : Prop :=
  ∃ account, Tables.visibleAccount? committed staged id = some account ∧ account.owner = user

private theorem Owned.putAccount {id : AccountId} (owned : Owned user one staged id) {account : Account}
    (owner : account.owner = user) : Owned user one (staged.putAccount account) id := by
  obtain ⟨found, seen, owner'⟩ := owned
  rw [Owned, Tables.visibleAccount?_putAccount]
  split
  · exact ⟨account, rfl, owner⟩
  · exact ⟨found, seen, owner'⟩

/-- What is found stays the user's when something else of theirs is published. -/
private theorem Owned.extend {id : AccountId} (owned : Owned user one staged id) {published : Tables}
    (own : StagedFor user fresh published) : Owned user (one.extend published) staged id := by
  obtain ⟨account, found, owner⟩ := owned
  rw [Owned, Tables.visibleAccount?, Tables.account?_extend own.distinct]
  rw [Tables.visibleAccount?] at found
  cases mine : staged.account? id with
  | some row =>
      rw [mine] at found
      exact ⟨account, found, owner⟩
  | none =>
      rw [mine, Option.none_or] at found
      cases published : published.account? id with
      | some row => exact ⟨row, rfl, own.rows id row published⟩
      | none => exact ⟨account, found, owner⟩

/-- Work goes on from a row that is found, and goes on in the same way from what is found in tables that look
alike. -/
private theorem HeedsRow.found {β : Type} (alike : Alike user known fresh one other)
    (own : StagedFor user fresh staged) {id : AccountId} {next : Option Account → β}
    {onward : Option Account → (AccountId → Prop) → Prop}
    (heeds : HeedsRow user known id (Owned user one staged) fresh
      (fun row row' => next row = next row') onward) :
    next (Tables.visibleAccount? one staged id) = next (Tables.visibleAccount? other staged id) ∧
      onward (Tables.visibleAccount? one staged id) (Owned user one staged) := by
  rcases alike.rows own id with ⟨account, named, owner, found, found'⟩ | indistinct
  · have already : alsoHeld id (Owned user one staged) = Owned user one staged := by
      funext other
      refine propext (or_iff_right_of_imp ?_)
      rintro rfl
      exact ⟨account, found, owner⟩
    have goesOn := heeds.1 account named owner
    rw [already] at goesOn
    rw [found, found']
    exact ⟨rfl, goesOn⟩
  · rcases heeds.2 with ⟨account, found, owner⟩ | others
    · exact absurd owner (indistinct.foreign account found)
    · exact others _ _ indistinct

private theorem HeedsEntry.found {β : Type} (alike : Alike user known fresh one other)
    (own : StagedFor user fresh staged) {id : TransactionId} {next : Option LedgerEntry → β}
    {onward : Option LedgerEntry → Prop}
    (heeds : HeedsEntry user id fresh (fun row row' => next row = next row') onward) :
    next (Tables.visibleEntry? one staged id) = next (Tables.visibleEntry? other staged id) ∧
      onward (Tables.visibleEntry? one staged id) := by
  rcases alike.entries own id with ⟨entry, named, owner, found, found'⟩ | indistinct
  · rw [found, found']
    exact ⟨rfl, heeds.1 entry named owner⟩
  · exact heeds.2 _ _ indistinct

/-- A discreet task is indifferent to tables that look alike. -/
theorem Task.Discreet.indifferent {task : Task ν α} (alike : Alike user known fresh one other)
    (own : StagedFor user fresh staged) (discreet : task.Discreet user known (Owned user one staged) fresh) :
    task.Indifferent one other staged := by
  cases task with
  | readAccount id next => exact (HeedsRow.found alike own discreet).1
  | readEntry id next => exact (HeedsEntry.found alike own discreet).1
  | readHistory user' account next =>
      obtain ⟨rfl, _⟩ := discreet
      exact congrArg next (alike.history account)
  | _ => trivial

/-- An access leaves a discreet task discreet, and what is staged the user's. -/
theorem Task.Discreet.access {task rest : Task ν α} {learned : List Reading} {written : Tables}
    (alike : Alike user known fresh one other) (own : StagedFor user fresh staged)
    (discreet : task.Discreet user known (Owned user one staged) fresh)
    (told : ∀ id, .newId id ∈ learned → fresh id)
    (access : Access one task staged learned rest written) :
    StagedFor user fresh written ∧ rest.Discreet user known (Owned user one written) fresh := by
  cases access with
  | readAccount id next => exact ⟨own, (HeedsRow.found alike own discreet).2⟩
  | readEntry id next => exact ⟨own, (HeedsEntry.found alike own discreet).2⟩
  | readHistory user' account next => exact ⟨own, discreet.2 _⟩
  | takeInsertFault next _ armed => exact ⟨own, discreet armed⟩
  | putAccount account =>
      exact ⟨own.putAccount discreet.1,
        discreet.2.mono (fun id owned => owned.putAccount discreet.1) fun _ isFresh => isFresh⟩
  | addEntry entry => exact ⟨own.addEntry discreet.1 discreet.2.1, discreet.2.2⟩
  | now next _ time => exact ⟨own, discreet time⟩
  | newId next _ id =>
      refine ⟨own, (discreet id).mono (fun _ owned => owned) ?_⟩
      rintro other (rfl | isFresh)
      · exact told other (List.mem_singleton.mpr rfl)
      · exact isFresh
  | convert amount target next _ answer => exact ⟨own, discreet answer⟩
  | sleep | note => exact ⟨own, discreet⟩

/-- A session that works discreetly for a user, and has staged nothing but the user's. -/
structure Session.Discreet (user : UserId) (known : Prop) (fresh : Uuid → Prop) (committed : Tables)
    (session : Session ν α) : Prop where
  staged : StagedFor user fresh session.staged
  task : ∀ task, session.phase.remaining = some task →
    task.Discreet user known (Owned user committed session.staged) fresh

theorem Session.Discreet.of_decided {session : Session ν α} (own : StagedFor user fresh session.staged)
    (decided : session.phase.remaining = none) : session.Discreet user known fresh one where
  staged := own
  task := by
    intro task remaining
    rw [decided] at remaining
    cases remaining

theorem Session.Discreet.of_task {session : Session ν α} {task : Task ν α}
    (own : StagedFor user fresh session.staged) (remaining : session.phase.remaining = some task)
    (discreet : task.Discreet user known (Owned user one session.staged) fresh) :
    session.Discreet user known fresh one where
  staged := own
  task := by
    intro task' remaining'
    rw [remaining] at remaining'
    cases remaining'
    exact discreet

/-- A session stays discreet when something of the user's is published. -/
theorem Session.Discreet.extend {session : Session ν α} (discreet : session.Discreet user known fresh one)
    {published : Tables} (own : StagedFor user fresh published) :
    session.Discreet user known fresh (one.extend published) where
  staged := discreet.staged
  task task remaining :=
    (discreet.task task remaining).mono (fun _ owned => owned.extend own) fun _ isFresh => isFresh

/-- A turn leaves a session discreet. -/
theorem Session.Discreet.turn {session next : Session ν α} {clock : Nat} {learned : List Reading}
    {after : Tables} (discreet : session.Discreet user known fresh one)
    (alike : Alike user known fresh one other) (told : ∀ id, .newId id ∈ learned → fresh id)
    (turn : Turn one clock session learned next after) : next.Discreet user known fresh after := by
  cases remaining : session.phase.remaining with
  | none =>
      obtain ⟨outcome, decided⟩ := Phase.remaining_eq_none_iff.mp remaining
      obtain ⟨_, _, decided', same | nothing⟩ := turn.of_decided decided
      · exact .of_decided (same ▸ discreet.staged) (Phase.remaining_of_outcome decided')
      · exact .of_decided (nothing ▸ .empty user fresh) (Phase.remaining_of_outcome decided')
  | some task =>
      have goesOn := discreet.task task remaining
      cases turn.works remaining with
      | stays remaining' held same =>
          exact .of_task (same ▸ discreet.staged) remaining' (same ▸ goesOn)
      | locks before remaining' holds same =>
          subst before
          exact .of_task (same ▸ discreet.staged) remaining' (same ▸ goesOn)
      | access access =>
          obtain ⟨own, rest⟩ := goesOn.access alike discreet.staged told access
          exact .of_task own rfl rest
      | lapses _ decided same | publishes _ decided same =>
          exact .of_decided (same ▸ discreet.staged) (Phase.remaining_of_outcome decided)

end Sessions

/-! ### Twins -/

namespace World

variable {user : UserId} {known : Prop} {fresh : Uuid → Prop} {world after : World ν α} {other other' : Tables}

/-- All sessions of a world are discreet, and its committed tables look like others. -/
structure Twin (user : UserId) (known : Prop) (fresh : Uuid → Prop) (world : World ν α) (other : Tables) :
    Prop where
  alike : Alike user known fresh world.tables other
  sessions : ∀ {number : Nat} {session : Session ν α}, world.sessions[number]? = some session →
    session.Discreet user known fresh world.tables

namespace Twin

/-- A discreet session that is added leaves the worlds twins. -/
theorem add (twin : world.Twin user known fresh other) {session : Session ν α}
    (discreet : session.Discreet user known fresh world.tables)
    (sessions : after.sessions = world.sessions ++ [session]) (tables : after.tables = world.tables) :
    after.Twin user known fresh other where
  alike := tables ▸ twin.alike
  sessions := by
    intro number found here
    rw [tables]
    rcases session_added sessions here with old | ⟨_, rfl⟩
    · exact twin.sessions old
    · exact discreet

/-- A call of discreet work leaves the worlds twins. -/
theorem call (twin : world.Twin user known fresh other) (context : RequestContext) (start : Nat)
    {work : Work ν α} (discreet : work.task.Discreet user known (fun _ => False) (fun _ => False)) :
    (world.call context start work).Twin user known fresh other :=
  twin.add (.of_task (.empty user fresh) rfl (discreet.mono (fun _ => False.elim) fun _ => False.elim))
    rfl rfl

private theorem commits (twin : world.Twin user known fresh other)
    (same : world.CommitsAlike other after.tables other') :
    Alike user known fresh after.tables other' ∧
      ∀ session : Session ν α, session.Discreet user known fresh world.tables →
        session.Discreet user known fresh after.tables := by
  generalize after.tables = tables at same
  cases same with
  | nothing => exact ⟨twin.alike, fun _ discreet => discreet⟩
  | published there publishing =>
      have own := (twin.sessions there).staged
      exact ⟨twin.alike.extend own, fun _ discreet => discreet.extend own⟩

/-- Whatever happens in a world that is no call happens in its twin, and leaves them twins, as long as fresh
identifiers are handed out. -/
theorem after? (twin : world.Twin user known fresh other) {event : Event ν α}
    (notCall : event.isCall = false)
    (told : ∀ number id, .newId id ∈ world.toldTo number event → fresh id)
    (happened : world.after? event = some after) :
    ∃ other', (world.withTables other).after? event = some (after.withTables other') ∧
      after.Twin user known fresh other' := by
  have indifferent : world.Indifferent other := by
    intro number session task there running
    have discreet := twin.sessions there
    exact (discreet.task task (by rw [running]; rfl)).indifferent twin.alike discreet.staged
  obtain ⟨other', happened', commits⟩ := after?_withTables indifferent happened
  obtain ⟨alike, kept⟩ := twin.commits commits
  refine ⟨other', happened', alike, ?_⟩
  intro number found here
  cases after?_happens happened with
  | called context work calls =>
      subst calls
      cases notCall
  | turned mover there sessions turn =>
      rcases session_after sessions here with ⟨_, rfl⟩ | ⟨_, old⟩
      · exact (twin.sessions there).turn twin.alike (told mover) turn
      · exact kept found (twin.sessions old)
  | aside sessions tables =>
      rw [sessions] at here
      exact kept found (twin.sessions here)

end Twin

end World

end Passbook.Session

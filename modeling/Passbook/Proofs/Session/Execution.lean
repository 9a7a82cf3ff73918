import Passbook.Proofs.Store.Tables
import Passbook.Session.World
/-!
# Tasks carried out alone

A task that nobody disturbs is a function of the committed tables and of what it is told on its way.  The
steps of a session in a world of many are accesses of the same task; here is what ties the two together.  A
task that has been led to some point by accesses of rows and entries nobody else changes could have been
led there just as well in one go, right now, on the tables that are committed now.
-/

namespace Passbook.Session

open Store (Tables)

variable {ν α : Type}

/-- What a task is told on its way, besides what it finds in the store. -/
inductive Reading where
  | now (time : Timestamp)
  | newId (id : Uuid)
  | converted (answer : Except ConversionError Quote)
  /-- Whether the entry it is about to insert is to fail. -/
  | insertFault (armed : Bool)

/-- How a run ends whose work has come to a result, if nothing comes in between. -/
def Outcome.ofResult : Except LedgerError α → Outcome α
  | .ok value => .completed value
  | .error e => .failed e

/-- The value with which a run has completed, if it has. -/
def Outcome.value? : Outcome α → Option α
  | .completed value => some value
  | _ => none

theorem Outcome.value?_eq_some_iff {outcome : Outcome α} {value : α} :
    outcome.value? = some value ↔ outcome = .completed value := by
  cases outcome <;> simp [value?]

/-! ### Execution -/

/-- Carry out a task on committed tables: how it ends, and what it has written by then, given what it has
written already and what it is told from now on.  It has to be told what it asks for and nothing more. -/
def Task.execute (committed : Tables) :
    Task ν α → Tables → List Reading → Option (Outcome α × Tables)
  | .done result, staged, [] => some (.ofResult result, staged)
  | .panic text, staged, [] => some (.panicked text, staged)
  | .lockRow _ next, staged, readings => next.execute committed staged readings
  | .readAccount id next, staged, readings =>
      (next (Tables.visibleAccount? committed staged id)).execute committed staged readings
  | .readEntry id next, staged, readings =>
      (next (Tables.visibleEntry? committed staged id)).execute committed staged readings
  | .readHistory user account next, staged, readings =>
      (next (Tables.visibleHistory committed staged user account)).execute committed staged readings
  | .takeInsertFault next, staged, .insertFault armed :: readings =>
      (next armed).execute committed staged readings
  | .putAccount account next, staged, readings =>
      next.execute committed (staged.putAccount account) readings
  | .addEntry entry next, staged, readings =>
      next.execute committed (staged.addEntry entry) readings
  | .now next, staged, .now time :: readings => (next time).execute committed staged readings
  | .newId next, staged, .newId id :: readings => (next id).execute committed staged readings
  | .convert _ _ next, staged, .converted answer :: readings =>
      (next answer).execute committed staged readings
  | .sleep _ next, staged, readings => next.execute committed staged readings
  | .note _ next, staged, readings => next.execute committed staged readings
  | _, _, _ => none

/-! What a task asks for is what it is told next. -/

section Told

variable {committed staged : Tables} {readings : List Reading} {done : Outcome α × Tables}

theorem execute_now {next : Timestamp → Task ν α}
    (executed : (Task.now next).execute committed staged readings = some done) :
    ∃ time rest, readings = .now time :: rest ∧
      (next time).execute committed staged rest = some done := by
  cases readings with
  | nil => cases executed
  | cons reading rest =>
      cases reading with
      | now time => exact ⟨time, rest, rfl, executed⟩
      | _ => cases executed

theorem execute_newId {next : Uuid → Task ν α}
    (executed : (Task.newId next).execute committed staged readings = some done) :
    ∃ id rest, readings = .newId id :: rest ∧
      (next id).execute committed staged rest = some done := by
  cases readings with
  | nil => cases executed
  | cons reading rest =>
      cases reading with
      | newId id => exact ⟨id, rest, rfl, executed⟩
      | _ => cases executed

theorem execute_convert {amount : Money} {target : Currency}
    {next : Except ConversionError Quote → Task ν α}
    (executed : (Task.convert amount target next).execute committed staged readings = some done) :
    ∃ answer rest, readings = .converted answer :: rest ∧
      (next answer).execute committed staged rest = some done := by
  cases readings with
  | nil => cases executed
  | cons reading rest =>
      cases reading with
      | converted answer => exact ⟨answer, rest, rfl, executed⟩
      | _ => cases executed

theorem execute_takeInsertFault {next : Bool → Task ν α}
    (executed : (Task.takeInsertFault next).execute committed staged readings = some done) :
    ∃ armed rest, readings = .insertFault armed :: rest ∧
      (next armed).execute committed staged rest = some done := by
  cases readings with
  | nil => cases executed
  | cons reading rest =>
      cases reading with
      | insertFault armed => exact ⟨armed, rest, rfl, executed⟩
      | _ => cases executed

end Told

/-! ### Accesses -/

/-- One access of a task: what it is told, what remains to be done after it, and what is staged then.
Locking a row is no access, since it may take long. -/
inductive Access (committed : Tables) :
    Task ν α → Tables → List Reading → Task ν α → Tables → Prop where
  | readAccount (id : AccountId) (next : Option Account → Task ν α) (staged : Tables) :
      Access committed (.readAccount id next) staged []
        (next (Tables.visibleAccount? committed staged id)) staged
  | readEntry (id : TransactionId) (next : Option LedgerEntry → Task ν α) (staged : Tables) :
      Access committed (.readEntry id next) staged []
        (next (Tables.visibleEntry? committed staged id)) staged
  | readHistory (user : UserId) (account : AccountId) (next : List LedgerEntry → Task ν α)
      (staged : Tables) :
      Access committed (.readHistory user account next) staged []
        (next (Tables.visibleHistory committed staged user account)) staged
  | takeInsertFault (next : Bool → Task ν α) (staged : Tables) (armed : Bool) :
      Access committed (.takeInsertFault next) staged [.insertFault armed] (next armed) staged
  | putAccount (account : Account) (next : Task ν α) (staged : Tables) :
      Access committed (.putAccount account next) staged [] next (staged.putAccount account)
  | addEntry (entry : LedgerEntry) (next : Task ν α) (staged : Tables) :
      Access committed (.addEntry entry next) staged [] next (staged.addEntry entry)
  | now (next : Timestamp → Task ν α) (staged : Tables) (time : Timestamp) :
      Access committed (.now next) staged [.now time] (next time) staged
  | newId (next : Uuid → Task ν α) (staged : Tables) (id : Uuid) :
      Access committed (.newId next) staged [.newId id] (next id) staged
  | convert (amount : Money) (target : Currency) (next : Except ConversionError Quote → Task ν α)
      (staged : Tables) (answer : Except ConversionError Quote) :
      Access committed (.convert amount target next) staged [.converted answer] (next answer) staged
  | sleep (millis : Nat) (next : Task ν α) (staged : Tables) :
      Access committed (.sleep millis next) staged [] next staged
  | note (entry : ν) (next : Task ν α) (staged : Tables) :
      Access committed (.note entry next) staged [] next staged

/-- Execution takes an access at a time. -/
theorem Access.execute_eq {committed staged written : Tables} {task next : Task ν α}
    {learned : List Reading} (access : Access committed task staged learned next written)
    (readings : List Reading) :
    task.execute committed staged (learned ++ readings) = next.execute committed written readings := by
  cases access <;> simp only [List.nil_append, List.cons_append, Task.execute]

/-! ### Footprints -/

/-- What a task may look at. -/
structure Footprint where
  rows : AccountId → Prop
  entries : TransactionId → Prop
  histories : Prop

/-- A task may look at everything. -/
def Footprint.everything : Footprint := ⟨fun _ => True, fun _ => True, True⟩

/-- The next access of the task looks at nothing else. -/
def Task.Within (seen : Footprint) : Task ν α → Prop
  | .readAccount id _ => seen.rows id
  | .readEntry id _ => seen.entries id
  | .readHistory _ _ _ => seen.histories
  | _ => True

theorem Task.within_everything (task : Task ν α) : task.Within .everything := by
  cases task <;> exact trivial

/-- Two pairs of tables look the same as far as a footprint goes. -/
structure Footprint.Agree (seen : Footprint) (committed other : Tables) : Prop where
  rows : ∀ id, seen.rows id → other.account? id = committed.account? id
  entries : ∀ id, seen.entries id → other.entry? id = committed.entry? id
  histories : seen.histories → other.entries = committed.entries

/-- An access that stays within a footprint goes the same way on tables that look the same. -/
theorem Access.congr {committed other staged written : Tables} {task next : Task ν α}
    {learned : List Reading} {seen : Footprint}
    (access : Access committed task staged learned next written) (within : task.Within seen)
    (agree : seen.Agree committed other) : Access other task staged learned next written := by
  cases access with
  | readAccount id next =>
      rw [← Tables.visibleAccount?_congr (agree.rows id within)]
      exact .readAccount id next staged
  | readEntry id next =>
      rw [← Tables.visibleEntry?_congr (agree.entries id within)]
      exact .readEntry id next staged
  | readHistory user account next =>
      have same := agree.histories within
      simp only [Tables.visibleHistory, ← same]
      exact .readHistory user account next staged
  | takeInsertFault next _ armed => exact .takeInsertFault next staged armed
  | putAccount account next => exact .putAccount account _ staged
  | addEntry entry next => exact .addEntry entry _ staged
  | now next _ time => exact .now next staged time
  | newId next _ id => exact .newId next staged id
  | convert amount target next _ answer => exact .convert amount target next staged answer
  | sleep millis next => exact .sleep millis _ staged
  | note entry next => exact .note entry _ staged

/-! ### Where a task is led -/

/-- Where a task is led by accesses within a footprint: what it was told on the way, what remains to be
done, and what is staged. -/
inductive Task.LeadsTo (committed : Tables) (seen : Footprint) (first : Task ν α) :
    List Reading → Task ν α → Tables → Prop where
  | start : LeadsTo committed seen first [] first .empty
  | lock {readings : List Reading} {id : AccountId} {next : Task ν α} {staged : Tables}
      (led : LeadsTo committed seen first readings (.lockRow id next) staged) :
      LeadsTo committed seen first readings next staged
  | access {readings learned : List Reading} {task next : Task ν α} {staged written : Tables}
      (led : LeadsTo committed seen first readings task staged) (within : task.Within seen)
      (access : Access committed task staged learned next written) :
      LeadsTo committed seen first (readings ++ learned) next written

namespace Task.LeadsTo

variable {committed other staged : Tables} {seen wider : Footprint} {first task : Task ν α}
  {readings : List Reading}

/-- A task is led the same way on tables that look the same as far as it has looked. -/
theorem congr (led : first.LeadsTo committed seen readings task staged)
    (agree : seen.Agree committed other) : first.LeadsTo other seen readings task staged := by
  induction led with
  | start => exact .start
  | lock _ inductionHypothesis => exact .lock inductionHypothesis
  | access _ within access inductionHypothesis =>
      exact .access inductionHypothesis within (access.congr within agree)

/-- A task that stays within a footprint stays within a wider one. -/
theorem widen (led : first.LeadsTo committed seen readings task staged)
    (rows : ∀ id, seen.rows id → wider.rows id) (entries : ∀ id, seen.entries id → wider.entries id)
    (histories : seen.histories → wider.histories) :
    first.LeadsTo committed wider readings task staged := by
  induction led with
  | start => exact .start
  | lock _ inductionHypothesis => exact .lock inductionHypothesis
  | access _ within access inductionHypothesis =>
      refine .access inductionHypothesis ?_ access
      cases access with
      | readAccount id => exact rows id within
      | readEntry id => exact entries id within
      | readHistory => exact histories within
      | _ => exact trivial

/-- To carry out a task is to carry out what remains of it, with what it will be told from there on. -/
theorem execute_eq (led : first.LeadsTo committed seen readings task staged) :
    ∀ rest : List Reading,
      first.execute committed .empty (readings ++ rest) = task.execute committed staged rest := by
  induction led with
  | start => intro rest; rfl
  | lock _ inductionHypothesis =>
      intro rest
      rw [inductionHypothesis rest, Task.execute]
  | access _ _ access inductionHypothesis =>
      intro rest
      rw [List.append_assoc, inductionHypothesis, access.execute_eq]

/-- A task that has been led to a result comes to it when it is carried out. -/
theorem execute_done {result : Except LedgerError α}
    (led : first.LeadsTo committed seen readings (.done result) staged) :
    first.execute committed .empty readings = some (.ofResult result, staged) := by
  have carried := led.execute_eq []
  rwa [List.append_nil, Task.execute] at carried

/-- A task that has been led to a breakdown breaks down when it is carried out. -/
theorem execute_panic {text : String}
    (led : first.LeadsTo committed seen readings (.panic text) staged) :
    first.execute committed .empty readings = some (.panicked text, staged) := by
  have carried := led.execute_eq []
  rwa [List.append_nil, Task.execute] at carried

end Task.LeadsTo

end Passbook.Session

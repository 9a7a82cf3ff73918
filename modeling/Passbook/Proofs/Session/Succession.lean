import Passbook.Proofs.Session.Execution
/-!
# One task after the other

Work that goes on with what other work has come to is carried out as one task after the other.  What the two are
told is then what the one is told and, behind it, what the other is told; and a task that has been led somewhere in
the first of the two has not come to its value yet.
-/

namespace Passbook.Session

open Store (Tables)

variable {ν α β γ : Type}

/-! ### Succession -/

/-- Carry out a task and then, with the value that it has come to, another.  An error ends both. -/
def Task.andThen : Task ν α → (α → Task ν β) → Task ν β
  | .done (.ok a), next => next a
  | .done (.error e), _ => .done (.error e)
  | .panic text, _ => .panic text
  | .lockRow id rest, next => .lockRow id (rest.andThen next)
  | .readAccount id rest, next => .readAccount id fun row => (rest row).andThen next
  | .readEntry id rest, next => .readEntry id fun row => (rest row).andThen next
  | .readHistory user account rest, next =>
    .readHistory user account fun entries => (rest entries).andThen next
  | .takeInsertFault rest, next => .takeInsertFault fun armed => (rest armed).andThen next
  | .putAccount account rest, next => .putAccount account (rest.andThen next)
  | .addEntry entry rest, next => .addEntry entry (rest.andThen next)
  | .now rest, next => .now fun time => (rest time).andThen next
  | .newId rest, next => .newId fun id => (rest id).andThen next
  | .convert amount target rest, next => .convert amount target fun answer => (rest answer).andThen next
  | .sleep millis rest, next => .sleep millis (rest.andThen next)
  | .note entry rest, next => .note entry (rest.andThen next)

private theorem write_andThen (row : Except LedgerError Account) (rest : Except LedgerError Unit → Task ν α)
    (next : α → Task ν β) :
    (perform.write row rest).andThen next = perform.write row fun answer => (rest answer).andThen next := by
  cases row <;> rfl

/-- What comes behind a store call comes behind its accesses. -/
theorem perform_andThen (call : Store.Call) (rest : Except LedgerError call.Answer → Task ν α)
    (next : α → Task ν β) :
    (perform call rest).andThen next = perform call fun answer => (rest answer).andThen next := by
  cases call with
  | account | accountIncludingClosed | accountForUpdate | entry | history => rfl
  | createAccount | updateAccount => simp only [perform, Task.andThen, write_andThen]
  | deleteAccount id =>
      simp only [perform, Task.andThen]
      congr 2
      funext row
      split
      · rfl
      · simp only [Task.andThen, write_andThen]
  | createEntry entry =>
      simp only [perform, Task.andThen]
      congr 1
      funext armed
      split
      · rfl
      · simp only [Task.andThen]
        congr 1
        funext row
        split
        · rfl
        · simp only [Task.andThen]
          congr 1
          funext row
          split <;> rfl

namespace Work

/-- Work that goes on with what other work has come to is carried out as one task after the other. -/
theorem task_bind (work : Work ν α) (next : α → Work ν β) :
    (work >>= next).task = work.task.andThen fun a => (next a).task := by
  induction work with
  | done result => cases result <;> rfl
  | panic => rfl
  | call call rest inductionHypothesis =>
      change perform call (fun answer => ((rest answer).bind next).task) = _
      rw [task, perform_andThen]
      exact congrArg (perform call) (funext inductionHypothesis)
  | now rest inductionHypothesis => exact congrArg Task.now (funext inductionHypothesis)
  | newId rest inductionHypothesis => exact congrArg Task.newId (funext inductionHypothesis)
  | convert amount target rest inductionHypothesis =>
      exact congrArg (Task.convert amount target) (funext inductionHypothesis)
  | sleep millis rest inductionHypothesis => exact congrArg (Task.sleep millis) inductionHypothesis
  | note entry rest inductionHypothesis => exact congrArg (Task.note entry) inductionHypothesis

/-- It makes no difference which of three pieces of work are put together first. -/
theorem bind_assoc (work : Work ν α) (next : α → Work ν β) (last : β → Work ν γ) :
    work >>= next >>= last = work >>= fun a => next a >>= last := by
  induction work with
  | done result => cases result <;> rfl
  | panic => rfl
  | call call rest inductionHypothesis => exact congrArg (Work.call call) (funext inductionHypothesis)
  | now rest inductionHypothesis => exact congrArg Work.now (funext inductionHypothesis)
  | newId rest inductionHypothesis => exact congrArg Work.newId (funext inductionHypothesis)
  | convert amount target rest inductionHypothesis =>
      exact congrArg (Work.convert amount target) (funext inductionHypothesis)
  | sleep millis rest inductionHypothesis => exact congrArg (Work.sleep millis) inductionHypothesis
  | note entry rest inductionHypothesis => exact congrArg (Work.note entry) inductionHypothesis

end Work

/-! ### Carried out -/

variable {committed written : Tables} {a : α}

/-- When the first of two tasks has come to its value, the second goes on from what is staged then, with what is
told from there on. -/
theorem Task.execute_andThen {task : Task ν α} (next : α → Task ν β) (later : List Reading) :
    ∀ {staged earlier}, task.execute committed staged earlier = some (.completed a, written) →
      (task.andThen next).execute committed staged (earlier ++ later) =
        (next a).execute committed written later := by
  induction task with
  | done result =>
      intro staged earlier executed
      cases earlier with
      | cons => cases executed
      | nil =>
          cases result with
          | error e => cases executed
          | ok value =>
              cases executed
              rfl
  | panic text =>
      intro staged earlier executed
      cases earlier <;> cases executed
  | lockRow id rest inductionHypothesis | putAccount account rest inductionHypothesis
  | addEntry entry rest inductionHypothesis | sleep millis rest inductionHypothesis
  | note entry rest inductionHypothesis =>
      intro staged earlier executed
      rw [execute] at executed
      rw [andThen, execute]
      exact inductionHypothesis executed
  | readAccount id rest inductionHypothesis | readEntry id rest inductionHypothesis
  | readHistory user account rest inductionHypothesis =>
      intro staged earlier executed
      rw [execute] at executed
      rw [andThen, execute]
      exact inductionHypothesis _ executed
  | takeInsertFault rest inductionHypothesis =>
      intro staged earlier executed
      obtain ⟨armed, earlier, rfl, executed⟩ := execute_takeInsertFault executed
      exact inductionHypothesis armed executed
  | now rest inductionHypothesis =>
      intro staged earlier executed
      obtain ⟨time, earlier, rfl, executed⟩ := execute_now executed
      exact inductionHypothesis time executed
  | newId rest inductionHypothesis =>
      intro staged earlier executed
      obtain ⟨id, earlier, rfl, executed⟩ := execute_newId executed
      exact inductionHypothesis id executed
  | convert amount target rest inductionHypothesis =>
      intro staged earlier executed
      obtain ⟨answer, earlier, rfl, executed⟩ := execute_convert executed
      exact inductionHypothesis answer executed

/-! ### Led -/

section Led

variable {seen : Footprint} {staged : Tables} {readings learned : List Reading} {first : Task ν α}
  {next : α → Task ν β} {task : Task ν β}

/-- The next access of two tasks is one of the first, unless that has come to its value. -/
theorem Access.andThen_cases {rest : Task ν α}
    (access : Access committed (rest.andThen next) staged learned task written) :
    (∃ a, rest = .done (.ok a)) ∨
      ∃ after, Access committed rest staged learned after written ∧ task = after.andThen next := by
  cases rest with
  | done result =>
      cases result with
      | ok a => exact .inl ⟨a, rfl⟩
      | error e => cases access
  | panic | lockRow => cases access
  | readAccount id rest =>
      cases access
      exact .inr ⟨_, .readAccount id rest _, rfl⟩
  | readEntry id rest =>
      cases access
      exact .inr ⟨_, .readEntry id rest _, rfl⟩
  | readHistory user account rest =>
      cases access
      exact .inr ⟨_, .readHistory user account rest _, rfl⟩
  | takeInsertFault rest =>
      cases access with
      | takeInsertFault _ _ armed => exact .inr ⟨_, .takeInsertFault rest _ armed, rfl⟩
  | putAccount account rest =>
      cases access
      exact .inr ⟨_, .putAccount account rest _, rfl⟩
  | addEntry entry rest =>
      cases access
      exact .inr ⟨_, .addEntry entry rest _, rfl⟩
  | now rest =>
      cases access with
      | now _ _ time => exact .inr ⟨_, .now rest _ time, rfl⟩
  | newId rest =>
      cases access with
      | newId _ _ id => exact .inr ⟨_, .newId rest _ id, rfl⟩
  | convert amount target rest =>
      cases access with
      | convert _ _ _ _ answer => exact .inr ⟨_, .convert amount target rest _ answer, rfl⟩
  | sleep millis rest =>
      cases access
      exact .inr ⟨_, .sleep millis rest _, rfl⟩
  | note entry rest =>
      cases access
      exact .inr ⟨_, .note entry rest _, rfl⟩

/-- So is a lock that the two ask for next. -/
private theorem lockRow_eq_andThen {rest : Task ν α} {id : AccountId} (same : .lockRow id task = rest.andThen next) :
    (∃ a, rest = .done (.ok a)) ∨ ∃ after, rest = .lockRow id after ∧ task = after.andThen next := by
  cases rest with
  | done result =>
      cases result with
      | ok a => exact .inl ⟨a, rfl⟩
      | error e => cases same
  | lockRow id after =>
      cases same
      exact .inr ⟨after, rfl, rfl⟩
  | _ => cases same

/-- What the first of two tasks looks at next the two look at next. -/
private theorem within_of_andThen {rest : Task ν α} (within : (rest.andThen next).Within seen) :
    rest.Within seen := by
  cases rest with
  | readAccount | readEntry | readHistory => exact within
  | _ => exact trivial

/-- Two tasks have been led either to somewhere in the first of them, or past the value to which it has come. -/
theorem Task.LeadsTo.andThen_cases (led : (first.andThen next).LeadsTo committed seen readings task staged) :
    (∃ rest, first.LeadsTo committed seen readings rest staged ∧ task = rest.andThen next ∧
      ∀ a, rest ≠ .done (.ok a)) ∨
        ∃ a earlier later written, readings = earlier ++ later ∧
          first.LeadsTo committed seen earlier (.done (.ok a)) written := by
  suffices either : (∃ rest, first.LeadsTo committed seen readings rest staged ∧ task = rest.andThen next) ∨
      ∃ a earlier later written, readings = earlier ++ later ∧
        first.LeadsTo committed seen earlier (.done (.ok a)) written by
    rcases either with ⟨rest, led, same⟩ | past
    · by_cases value : ∃ a, rest = .done (.ok a)
      · obtain ⟨a, rfl⟩ := value
        exact .inr ⟨a, readings, [], staged, (List.append_nil _).symm, led⟩
      · exact .inl ⟨rest, led, same, fun a done => value ⟨a, done⟩⟩
    · exact .inr past
  -- The induction is on how the two were led; it stays in the first task until that has come to its value.
  induction led with
  | start => exact .inl ⟨first, .start, rfl⟩
  | @lock readings id task staged _ inductionHypothesis =>
      rcases inductionHypothesis with ⟨rest, led, same⟩ | past
      · rcases lockRow_eq_andThen same with ⟨a, rfl⟩ | ⟨after, rfl, goesOn⟩
        · exact .inr ⟨a, readings, [], staged, (List.append_nil _).symm, led⟩
        · exact .inl ⟨after, led.lock, goesOn⟩
      · exact .inr past
  | @access readings learned _ task staged written _ within access inductionHypothesis =>
      rcases inductionHypothesis with ⟨rest, led, rfl⟩ | ⟨a, earlier, later, _, rfl, led⟩
      · rcases access.andThen_cases with ⟨a, rfl⟩ | ⟨after, access, same⟩
        · exact .inr ⟨a, readings, learned, staged, rfl, led⟩
        · exact .inl ⟨after, led.access (within_of_andThen within) access, same⟩
      · exact .inr ⟨a, earlier, later ++ learned, _, List.append_assoc _ _ _, led⟩

end Led

end Passbook.Session

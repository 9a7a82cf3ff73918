import Passbook.Proofs.Service.Log
import Passbook.Proofs.Session.Alone
import Passbook.Service.Ledger
/-!
# An operation that is performed

A ledger at rest performs every operation: it comes to the answer to which the operation comes when it is
carried out by itself, and is at rest again.
-/

namespace Passbook.Service

open Session
open Store (Tables)

/-! ### How long operations take -/

section Operations

theorem accountWork_brief (user : UserId) (id : AccountId) :
    (accountWork user id : Work Empty Account).Brief (fun _ _ => True) 1 :=
  .ask 0 (Nat.le_refl 1) fun _ => .of_result _ 0

theorem historyWork_brief (user : UserId) (id : AccountId) :
    (historyWork user id : Work Empty (List LedgerEntry)).Brief (fun _ _ => True) 2 :=
  .ask 1 (Nat.le_refl 2) fun _ => .ofExcept fun _ => .of_ask (.history user id)

theorem transactionWork_brief (user : UserId) (id : TransactionId) :
    (transactionWork user id : Work Empty LedgerEntry).Brief (fun _ _ => True) 1 := by
  refine .ask 0 (Nat.le_refl 1) fun entry => ?_
  split
  · trivial
  · trivial

theorem openWork_brief (user : UserId) (currency : Currency) :
    (openWork user currency : Work Empty Account).Brief (fun _ _ => True) 8 :=
  .freshId 7 (Nat.le_refl 8) fun _ => .clock 6 (Nat.le_refl 7) fun _ =>
    .ask 0 (Nat.le_refl 6) fun _ => trivial

theorem closeWork_brief (user : UserId) (id : AccountId) :
    (closeWork user id : Work Empty Unit).Brief (fun _ _ => True) 13 :=
  .ask 8 (Nat.le_refl 13) fun _ => .ofExcept fun _ => .clock 7 (Nat.le_refl 8) fun _ =>
    .ofExcept fun _ => .of_ask (.deleteAccount id)

/-- A conversion takes a step, if there is anything to convert. -/
theorem convertWork_brief (amount : Money) (target : Currency) {β : Type} {steps : Nat}
    {f : Money × Option ConversionInfo → Work Empty β}
    (brief : ∀ applied, (f applied).Brief (fun _ _ => True) steps) :
    (convertWork amount target >>= f).Brief (fun _ _ => True) (steps + 1) := by
  rcases convertWork_cases amount target with same | ⟨come, same⟩
  · rw [same]
    exact (brief _).mono (Nat.le_succ steps)
  · rw [same]
    exact ⟨steps, Nat.lt_succ_self steps, fun answer => .ofExcept fun applied => brief applied⟩

theorem moveWork_brief (user : UserId) (direction : Direction) (request : MovementRequest) :
    (moveWork user direction request : Work Empty LedgerEntry).Brief (fun _ _ => True) 18 := by
  refine .ask 13 (Nat.le_refl 18) fun account => ?_
  refine .ofExcept fun _ => .ofExcept fun amount => ?_
  refine convertWork_brief amount account.currency fun applied => ?_
  refine .clock 11 (Nat.le_refl 12) fun time => .ofExcept fun moved => ?_
  refine .ask 5 (Nat.le_refl 11) fun _ => .freshId 4 (Nat.le_refl 5) fun id => ?_
  exact .ofExcept fun entry => .ask 0 (Nat.le_refl 4) fun _ => trivial

/-- No operation takes more steps than it is allowed. -/
theorem Operation.work_brief (defaultCurrency : Currency) (user : UserId) (operation : Operation) :
    (operation.work defaultCurrency user : Work Empty Answer).Brief (fun _ _ => True)
      Operation.bound := by
  cases operation with
  | openAccount currency => exact .map ((openWork_brief user _).mono (by decide))
  | move direction request => exact .map ((moveWork_brief user direction request).mono (by decide))
  | account id | balance id => exact .map ((accountWork_brief user id).mono (by decide))
  | history id => exact .map ((historyWork_brief user id).mono (by decide))
  | transaction id => exact .map ((transactionWork_brief user id).mono (by decide))
  | closeAccount id => exact .map ((closeWork_brief user id).mono (by decide))

end Operations

/-! ### Performing -/

namespace Ledger

variable {ledger : Ledger}

/-- How many steps of the store a call may take. -/
def allowance : Nat := Operation.bound + Simulation.overhead

/-- A ledger carries out an operation by itself, given what it is told: the time, identifiers of its source,
and conversions, but of no fault.  It is at rest again afterwards. -/
structure Performs (ledger : Ledger) (user : UserId) (operation : Operation) (readings : List Reading)
    (outcome : Outcome Answer) (after : Ledger) : Prop where
  carried : operation.carryOut ledger.defaultCurrency user ledger.store.world.tables readings =
    some (outcome, after.store.world.tables)
  unfailing : .insertFault true ∉ readings
  drawn : ∃ count ≤ allowance,
    (∀ id, .newId id ∈ readings → id ∈ (ledger.store.ids.take ledger.store.millis count).1) ∧
      after.store.ids = (ledger.store.ids.take ledger.store.millis count).2
  time : after.store.millis = ledger.store.millis
  atRest : after.store.AtRest
  currency : after.defaultCurrency = ledger.defaultCurrency

/-- A call that does not pass its check leaves the ledger as it is. -/
theorem perform_of_refused (idle : ledger.store.world.sessions = []) {call : Call} {e : LedgerError}
    (refused : call.operation.check = .error e) : ledger.perform call = (some (.failed e), ledger) := by
  have cleared : ({ ledger.store.world with sessions := [] } : World Empty Answer) = ledger.store.world := by
    rw [← idle]
  simp [perform, performAll, refused, Except.isOk, Except.toBool, Simulation.run, Simulation.happenings,
    cleared, idle, collect]

/-- Every call of an operation is brief enough for what it is allowed. -/
theorem callOf_brief (ledger : Ledger) (call : Call) :
    (ledger.callOf call).work.task.Brief (ledger.callOf call).bound :=
  (call.operation.work_brief ledger.defaultCurrency call.user).task

/-- What a call that passes its check comes to is told by the run of its session. -/
theorem perform_of_checked {call : Call} (checked : call.operation.check = .ok ())
    {report : Simulation.Report Empty Answer} {store : Session.Simulation Empty Answer}
    (ran : ledger.store.run [ledger.callOf call] = ([report], store)) :
    ledger.perform call = (report.outcome, { ledger with store := store }) := by
  simp [perform, performAll, checked, Except.isOk, Except.toBool, ran, collect]

/-- A ledger at rest performs every call that is made at once and with some time. -/
theorem exists_performs (rest : ledger.store.AtRest) {call : Call} (atOnce : call.delay = 0)
    (inTime : ∀ timeout, call.timeout = some timeout → 0 < timeout) :
    ∃ outcome readings after, ledger.perform call = (some outcome, after) ∧
      ledger.Performs call.user call.operation readings outcome after := by
  cases checked : call.operation.check with
  | error e =>
      refine ⟨.failed e, [], ledger, perform_of_refused rest.idle checked, ?_, nofun,
        ⟨0, Nat.zero_le _, ?_, rfl⟩, rfl, rest, rfl⟩
      · exact Operation.carryOut_of_refused checked _ _ _
      · intro id drawn
        cases drawn
  | ok _ =>
      obtain ⟨report, outcome, readings, store, ran, ended, ⟨written, carried, completes, voids⟩, unfailing,
        drawn, time, atRest⟩ :=
          rest.run atOnce inTime (ledger.callOf_brief call)
      refine ⟨outcome, readings, { ledger with store := store }, ?_, ?_, unfailing, drawn, time, atRest, rfl⟩
      · rw [perform_of_checked checked ran, ended]
      · rw [Operation.carryOut_of_checked checked, Operation.task]
        rw [callOf] at carried
        rw [carried, Option.map_some, Option.some.injEq, Prod.mk.injEq]
        refine ⟨rfl, ?_⟩
        cases outcome with
        | completed value => exact (completes value rfl).symm
        | failed | panicked | cancelled =>
            refine (voids fun value same => ?_).symm
            cases same

end Ledger

end Passbook.Service

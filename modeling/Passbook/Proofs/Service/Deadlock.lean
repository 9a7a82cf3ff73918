import Passbook.Proofs.Service.Ownership
import Passbook.Proofs.Session.OneRow
/-!
# No deadlocks

Every operation locks one row at most, although some lock it twice: those that change an account lock it to look
at it and again to write it, an account that is opened is locked under the identifier that was handed out for it,
and who only looks locks nothing.  So the operations never wait for one another in a circle.
-/

namespace Passbook.Service

open Session (Work World)
open Store (Tables)

/-! ### Operations -/

section Operations

variable {own : Option AccountId} {β : Type}

/-- A conversion locks nothing. -/
theorem convertWork_oneRow (amount : Money) (target : Currency) {post : β → Option AccountId → Prop}
    {f : Money × Option ConversionInfo → Work Empty β} (oneRow : ∀ applied, (f applied).OneRow post own) :
    (convertWork amount target >>= f).OneRow post own := by
  rcases convertWork_cases amount target with same | ⟨come, same⟩
  · rw [same]
    exact oneRow _
  · rw [same]
    exact fun answer => .ofExcept fun applied _ => oneRow applied

/-- The account that is opened is the only row that is locked. -/
theorem openWork_oneRow (user : UserId) (currency : Currency) :
    (openWork user currency : Work Empty Account).OneRow (fun _ _ => True) none := by
  apply Work.OneRow.freshId
  intro id
  apply Work.OneRow.clock
  intro time
  exact .ask (by rintro _ _ _ ⟨⟩) fun _ _ => trivial

/-- An account is locked before it is looked at, and again when it is closed. -/
theorem closeWork_oneRow (user : UserId) {id : AccountId} (free : ∀ other ∈ own, other = id) :
    (closeWork user id : Work Empty Unit).OneRow (fun _ _ => True) own := by
  refine .ask (by rintro _ ⟨⟩; exact free) fun account _ => ?_
  apply Work.OneRow.ofExcept
  intro _ _
  apply Work.OneRow.clock
  intro time
  apply Work.OneRow.ofExcept
  intro _ _
  refine ⟨?_, fun answer _ => ?_⟩
  · rintro _ ⟨⟩ _ ⟨⟩
    rfl
  · cases answer <;> trivial

/-- Funds are moved on the account that was locked to look at it. -/
theorem moveWork_oneRow (user : UserId) (direction : Direction) {request : MovementRequest}
    (free : ∀ other ∈ own, other = request.account) :
    (moveWork user direction request : Work Empty LedgerEntry).OneRow (fun _ _ => True) own := by
  refine .ask (by rintro _ ⟨⟩; exact free) fun account answers => ?_
  have same : account.id = request.account := answers account rfl
  apply Work.OneRow.ofExcept
  intro _ _
  apply Work.OneRow.ofExcept
  intro amount _
  apply convertWork_oneRow amount account.currency
  rintro ⟨applied, conversion⟩
  apply Work.OneRow.clock
  intro time
  apply Work.OneRow.ofExcept
  rintro ⟨moved, signed⟩ movement
  obtain ⟨balance, rfl, _⟩ := applyMovement_eq_ok movement
  refine .ask ?_ fun _ _ => ?_
  · rintro _ ⟨⟩ _ ⟨⟩
    exact same.symm
  · apply Work.OneRow.freshId
    intro id
    apply Work.OneRow.ofExcept
    intro entry _
    exact .ask (by rintro _ ⟨⟩) fun _ _ => trivial

theorem accountWork_oneRow (user : UserId) (id : AccountId) :
    (accountWork user id : Work Empty Account).OneRow (fun _ _ => True) none := by
  refine .ask (by rintro _ ⟨⟩) fun account _ => ?_
  cases requireOwned id user account <;> trivial

theorem historyWork_oneRow (user : UserId) (id : AccountId) :
    (historyWork user id : Work Empty (List LedgerEntry)).OneRow (fun _ _ => True) none := by
  refine .ask (by rintro _ ⟨⟩) fun account _ => ?_
  apply Work.OneRow.ofExcept
  intro _ _
  refine ⟨by rintro _ ⟨⟩, fun answer _ => ?_⟩
  cases answer <;> trivial

theorem transactionWork_oneRow (user : UserId) (id : TransactionId) :
    (transactionWork user id : Work Empty LedgerEntry).OneRow (fun _ _ => True) none := by
  refine .ask (by rintro _ ⟨⟩) fun entry _ => ?_
  split <;> trivial

/-- No operation locks more than one row. -/
theorem Operation.task_oneRow (operation : Operation) (defaultCurrency : Currency) (user : UserId) :
    (operation.task defaultCurrency user).OneRow none := by
  cases operation with
  | openAccount currency => exact (Work.OneRow.map (openWork_oneRow user _)).task
  | move direction request => exact (Work.OneRow.map (moveWork_oneRow user direction (by rintro _ ⟨⟩))).task
  | closeAccount id => exact (Work.OneRow.map (closeWork_oneRow user (by rintro _ ⟨⟩))).task
  | account id | balance id => exact (Work.OneRow.map (accountWork_oneRow user id)).task
  | history id => exact (Work.OneRow.map (historyWork_oneRow user id)).task
  | transaction id => exact (Work.OneRow.map (transactionWork_oneRow user id)).task

/-- Whoever is to change an account locks its row and no other. -/
theorem Operation.task_oneRow_of_changes {operation : Operation} {id : AccountId}
    (changes : operation.changes? = some id) (defaultCurrency : Currency) (user : UserId) :
    (operation.task defaultCurrency user).OneRow (some id) := by
  cases operation with
  | move direction request =>
      cases changes
      refine (Work.OneRow.map (moveWork_oneRow user direction ?_)).task
      rintro _ ⟨⟩
      rfl
  | closeAccount _ =>
      cases changes
      refine (Work.OneRow.map (closeWork_oneRow user ?_)).task
      rintro _ ⟨⟩
      rfl
  | openAccount | account | balance | history | transaction => cases changes

end Operations

/-! ### Operations side by side -/

namespace Chronicle

variable {chronicle after : Chronicle}

/-- Every event leaves all sessions with one row at most. -/
theorem oneRow_after? (oneRow : chronicle.world.OneRow) {event : Event}
    (happened : chronicle.after? event = some after) : after.world.OneRow := by
  rcases after?_cases happened with ⟨context, operation, _, rfl⟩ | ⟨event', follows⟩
  · unfold call
    dsimp only
    split
    · exact oneRow.add rfl (.opening (operation.task_oneRow _ _) _ _ _)
    · exact oneRow.add rfl (.of_decided rfl)
  · refine oneRow.after? ?_ follows.world
    rintro context work rfl
    cases follows.notCall

/-- Whatever operations are called, and whatever happens to them in whatever order, none of them ever waits for
a row that it has locked or while it has locked a row, and each that waits waits for one that does not and
that can take its next step at once; so they never wait for one another in a circle. -/
theorem operations_freeOfDeadlock {defaultCurrency : Currency} {tables : Tables} {events : List Event}
    (ran : (Chronicle.start defaultCurrency tables).run? events = some chronicle) :
    chronicle.world.FreeOfDeadlock := by
  have regular := (Regular.start defaultCurrency tables).run? ran
  have oneRow : chronicle.world.OneRow :=
    (Leads.of_foldlM ran).invariant (motive := fun chronicle => chronicle.world.OneRow)
      (fun _ _ known => nomatch known) fun before happened => oneRow_after? before happened
  exact oneRow.freeOfDeadlock regular.order

/-- An account is opened, and then it is closed twice side by side: the one session has locked the row, and the
other waits for it. -/
theorem operations_freeOfDeadlock_closings :
    let id : AccountId := ⟨Uuid.ofNat 2⟩
    let context := RequestContext.ofUser ⟨Uuid.ofNat 1⟩
    let steps (number count : Nat) : List Event :=
      List.replicate count (.advanced number ⟨⟨0, 0⟩, id.uuid, fun _ _ => .error .outOfRange⟩)
    let events := .called context (.openAccount none) :: steps 0 13 ++
      .called context (.closeAccount id) :: steps 1 4 ++ .called context (.closeAccount id) :: steps 2 3
    ∃ chronicle, (Chronicle.start .eur .empty).run? events = some chronicle ∧
      chronicle.world.FreeOfDeadlock ∧ chronicle.world.WaitsFor 2 1 := by
  intro id context steps events
  have ends : ((Chronicle.start .eur .empty).run? events).map (fun chronicle =>
      (chronicle.world.sessions[1]?.map (·.holds id), chronicle.world.sessions[2]?.map (·.phase.asked))) =
      some (some true, some (some (id, 1))) := by
    decide +kernel
  obtain ⟨chronicle, ran, ends⟩ := Option.map_eq_some_iff.mp ends
  obtain ⟨locked, waiting⟩ := Prod.mk.inj ends
  obtain ⟨first, known, locked⟩ := Option.map_eq_some_iff.mp locked
  obtain ⟨second, known', asked⟩ := Option.map_eq_some_iff.mp waiting
  have order := ((Regular.start .eur .empty).run? ran).order.locks
  have has : chronicle.world.HasLock 1 id := .locked known (Session.Session.holds_iff.mp locked)
  have waits : ∃ lock next, second.phase = .waiting id lock next := by
    cases phase : second.phase with
    | waiting _ lock next =>
        rw [phase] at asked
        cases asked
        exact ⟨_, next, rfl⟩
    | _ =>
        rw [phase] at asked
        cases asked
  obtain ⟨lock, next, waits⟩ := waits
  refine ⟨chronicle, ran, operations_freeOfDeadlock ran,
    id, ⟨⟨second, lock, next, known', waits⟩, fun own => ?_⟩, has⟩
  exact absurd (own.unique order has) (by decide)

end Chronicle

end Passbook.Service

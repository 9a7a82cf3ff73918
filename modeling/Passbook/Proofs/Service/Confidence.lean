import Passbook.Proofs.Session.Discretion
/-!
# Operations keep to themselves

All operations of a user are discreet.  Those that look answer the same for what is another's as for what is
not there, in the store's words; those that change something refuse another's account if it is open, and else
do not find it.
-/

namespace Passbook.Service

open Session (Work Foreign ForeignEntry isLive)
open Store (Tables missingAccount missingEntry requireLive requireAccount requireEntry)

/-! ### What is missing -/

/-- The store says of an account that is absent what the operations say of another's. -/
theorem missingAccount_eq (id : AccountId) : missingAccount id = .notFound s!"account {id}" := by
  simp [missingAccount, LedgerError.ofStore, LedgerError.ofFault, Fault.classify, Fault.refusal?,
    StoreFailure.refusal?]

/-- So it does of an entry. -/
theorem missingEntry_eq (id : TransactionId) : missingEntry id = .notFound s!"transaction {id}" := by
  simp [missingEntry, LedgerError.ofStore, LedgerError.ofFault, Fault.classify, Fault.refusal?,
    StoreFailure.refusal?]

/-- An injected fault is no refusal of an operation. -/
theorem injected_eq (place : String) : Store.injected place = .unknown (.store (.injectedFault place)) := by
  simp [Store.injected, LedgerError.ofStore, LedgerError.ofFault, Fault.classify, Fault.refusal?,
    StoreFailure.refusal?, Fault.source?]

section Foreign

variable {user : UserId} {row : Option Account}

theorem isOwnedBy_of_foreign {account : Account} (foreign : Foreign user (some account)) :
    account.isOwnedBy user = false := by
  simpa [Account.isOwnedBy] using foreign account rfl

/-- An account of another is found if it is open, and else nothing is. -/
theorem requireLive_of_foreign (id : AccountId) (foreign : Foreign user row) :
    (isLive row = false ∧ requireLive id row = .error (missingAccount id)) ∨
      (isLive row = true ∧ ∃ account, requireLive id row = .ok account ∧ account.isOwnedBy user = false) := by
  cases row with
  | none => exact .inl ⟨rfl, rfl⟩
  | some account =>
      cases closed : account.isDeleted with
      | true =>
          refine .inl ⟨by simp [isLive, closed], ?_⟩
          rw [requireLive, Option.filter_some, closed]
          rfl
      | false =>
          refine .inr ⟨by simp [isLive, closed], account, ?_, isOwnedBy_of_foreign foreign⟩
          rw [requireLive, Option.filter_some, closed]
          rfl

end Foreign

/-! ### Looking -/

section Operations

variable {user : UserId} {known : Prop} {own : AccountId → Prop} {drawn : Uuid → Prop}

/-- Whoever looks at another's account goes on as if there were none. -/
theorem accountWork_of_foreign {row : Option Account} (id : AccountId) (foreign : Foreign user row) :
    (Work.done (requireLive id row) >>= fun account => Work.ofExcept (requireOwned id user account) :
      Work Empty Account) = .done (.error (missingAccount id)) := by
  rcases requireLive_of_foreign id foreign with ⟨_, missing⟩ | ⟨_, account, found, other⟩
  · rw [missing]
    rfl
  · rw [found]
    change Work.done (requireOwned id user account) = _
    simp [requireOwned, other, missingAccount_eq]

/-- So does whoever looks at its history. -/
theorem historyWork_of_foreign {row : Option Account} (id : AccountId) (foreign : Foreign user row) :
    (Work.done (requireAccount id row) >>= fun account =>
      Work.ofExcept (requireOwned id user account) >>= fun _ => Work.ask (.history user id) :
        Work Empty (List LedgerEntry)) = .done (.error (missingAccount id)) := by
  cases row with
  | none => rfl
  | some account =>
      change (Work.done (requireOwned id user account) >>= fun _ => Work.ask (.history user id) :
        Work Empty (List LedgerEntry)) = _
      simp only [requireOwned, isOwnedBy_of_foreign foreign, missingAccount_eq]
      rfl

/-- Whoever looks at another's entry goes on as if there were none. -/
theorem transactionWork_of_foreign {row : Option LedgerEntry} (id : TransactionId)
    (foreign : ForeignEntry user row) :
    (Work.done (requireEntry id row) >>= fun entry => if entry.user = user then return entry
      else Work.fail (.notFound s!"transaction {id}") : Work Empty LedgerEntry) =
        .done (.error (missingEntry id)) := by
  cases row with
  | none => rfl
  | some entry =>
      change (if entry.user = user then return entry else Work.fail _ : Work Empty LedgerEntry) = _
      rw [if_neg (foreign entry rfl), missingEntry_eq]
      rfl

theorem accountWork_discreet (id : AccountId) :
    (accountWork user id : Work Empty Account).Discreet user known (fun _ _ _ => True) own drawn := by
  refine .ask ⟨?_, .inr ?_⟩
  · intro account _ _
    exact .of_settles (.bind (.ofExcept _) fun _ => .ofExcept _)
  · intro row row' indistinct
    dsimp only
    rw [accountWork_of_foreign id indistinct.foreign, accountWork_of_foreign id indistinct.foreign']
    exact ⟨rfl, trivial⟩

theorem historyWork_discreet (id : AccountId) :
    (historyWork user id : Work Empty (List LedgerEntry)).Discreet user known (fun _ _ _ => True)
      own drawn := by
  refine .ask ⟨?_, .inr ?_⟩
  · intro account _ _
    refine .ofExcept fun _ _ => .ofExcept fun _ _ => ?_
    exact ⟨rfl, fun answer => .of_settles (.ofExcept answer)⟩
  · intro row row' indistinct
    dsimp only
    rw [historyWork_of_foreign id indistinct.foreign, historyWork_of_foreign id indistinct.foreign']
    exact ⟨rfl, trivial⟩

theorem transactionWork_discreet (id : TransactionId) :
    (transactionWork user id : Work Empty LedgerEntry).Discreet user known (fun _ _ _ => True)
      own drawn := by
  refine .ask ⟨?_, ?_⟩
  · intro entry _ owner
    dsimp only
    change Work.Discreet user known _ (if entry.user = user then return entry else Work.fail _) own drawn
    rw [if_pos owner]
    trivial
  · intro row row' indistinct
    dsimp only
    rw [transactionWork_of_foreign id indistinct.foreign,
      transactionWork_of_foreign id indistinct.foreign']
    exact ⟨rfl, trivial⟩

/-! ### Changing -/

theorem openWork_discreet (currency : Currency) :
    (openWork user currency : Work Empty Account).Discreet user known (fun _ _ _ => True) own drawn := by
  apply Work.Discreet.freshId
  intro id
  apply Work.Discreet.clock
  intro time
  exact .ask ⟨rfl, .inl rfl, fun answer => .of_settles (.bind (.ofExcept _) fun _ => ⟨_, rfl⟩)⟩

/-- Whoever is to change another's account is refused if it is open, and else does not find it. -/
theorem refused_of_foreign {β : Type} {row : Option Account} (id : AccountId) (foreign : Foreign user row)
    (f : Account → Work Empty β) :
    (Work.done (requireLive id row) >>= fun account =>
      Work.ofExcept (account.ensureOwnedBy user) >>= fun _ => f account) =
        .done (.error (if isLive row then .unauthorized else missingAccount id)) := by
  rcases requireLive_of_foreign id foreign with ⟨closed, missing⟩ | ⟨live, account, found, other⟩
  · rw [missing, closed]
    rfl
  · rw [found, live]
    change (Work.done (account.ensureOwnedBy user) >>= fun _ => f account) = _
    simp only [Account.ensureOwnedBy, other]
    rfl

/-- Work that loads an account to change it, and checks whose it is first, goes on with the user's only. -/
theorem forUpdate_discreet {β : Type} (known : Prop) (isKnown : known) (id : AccountId)
    {f : Account → Work Empty β} {post : β → (AccountId → Prop) → (Uuid → Prop) → Prop}
    (discreet : ∀ account, account.id = id → account.owner = user →
      (f account).Discreet user known post (Session.alsoHeld id own) drawn) :
    (Work.ask (.accountForUpdate id) >>= fun account =>
      Work.ofExcept (account.ensureOwnedBy user) >>= fun _ => f account).Discreet user known post own
        drawn := by
  refine .ask ⟨?_, .inr ?_⟩
  · intro account standing owner
    refine .ofExcept fun found live => ?_
    obtain ⟨same, _⟩ := Store.requireLive_eq_ok live
    cases same
    exact .ofExcept fun _ _ => discreet account standing owner
  · intro row row' indistinct
    dsimp only
    rw [refused_of_foreign id indistinct.foreign, refused_of_foreign id indistinct.foreign',
      indistinct.live isKnown]
    exact ⟨rfl, trivial⟩

theorem closeWork_discreet (isKnown : known) (id : AccountId) :
    (closeWork user id : Work Empty Unit).Discreet user known (fun _ _ _ => True) own drawn := by
  apply forUpdate_discreet known isKnown id
  intro account _ _
  apply Work.Discreet.clock
  intro time
  apply Work.Discreet.ofExcept
  intro _ _
  exact ⟨.inl rfl, fun answer => .of_settles (.ofExcept answer)⟩

/-- A conversion asks the store for nothing. -/
theorem convertWork_discreet (amount : Money) (target : Currency) {β : Type}
    {post : β → (AccountId → Prop) → (Uuid → Prop) → Prop}
    {f : Money × Option ConversionInfo → Work Empty β}
    (discreet : ∀ applied, (f applied).Discreet user known post own drawn) :
    (convertWork amount target >>= f).Discreet user known post own drawn := by
  rcases convertWork_cases amount target with same | ⟨come, same⟩
  · rw [same]
    exact discreet _
  · rw [same]
    exact fun answer => .ofExcept fun applied _ => discreet applied

theorem moveWork_discreet (isKnown : known) (direction : Direction) (request : MovementRequest) :
    (moveWork user direction request : Work Empty LedgerEntry).Discreet user known (fun _ _ _ => True)
      own drawn := by
  apply forUpdate_discreet known isKnown request.account
  intro account standing owner
  apply Work.Discreet.ofExcept
  intro amount _
  apply convertWork_discreet amount account.currency
  rintro ⟨applied, conversion⟩
  apply Work.Discreet.clock
  intro time
  apply Work.Discreet.ofExcept
  rintro ⟨moved, signed⟩ movement
  obtain ⟨balance, rfl, _⟩ := applyMovement_eq_ok movement
  refine .ask ⟨.inl standing, ?_⟩
  intro answer
  cases answer with
  | error e => trivial
  | ok =>
      apply Work.Discreet.freshId
      intro id
      apply Work.Discreet.ofExcept
      intro entry recorded
      obtain ⟨_, _, rfl⟩ := LedgerEntry.record_eq_ok recorded
      refine .ask ⟨rfl, .inl standing, .inl rfl, ?_⟩
      intro answer
      exact .of_settles (.bind (.ofExcept answer) fun _ => ⟨_, rfl⟩)

end Operations

/-- Every operation is discreet; those that change something depend on which accounts of others are open. -/
theorem Operation.task_discreet (defaultCurrency : Currency) (user : UserId) {operation : Operation}
    {known : Prop} (scope : operation.isLook = true ∨ known) :
    (operation.task defaultCurrency user).Discreet user known (fun _ => False) (fun _ => False) := by
  cases operation with
  | openAccount currency => exact (Work.Discreet.map (openWork_discreet _)).task
  | account id => exact (Work.Discreet.map (accountWork_discreet id)).task
  | balance id => exact (Work.Discreet.map (accountWork_discreet id)).task
  | history id => exact (Work.Discreet.map (historyWork_discreet id)).task
  | transaction id => exact (Work.Discreet.map (transactionWork_discreet id)).task
  | move direction request =>
      have isKnown := scope.resolve_left nofun
      exact (Work.Discreet.map (moveWork_discreet isKnown direction request)).task
  | closeAccount id =>
      have isKnown := scope.resolve_left nofun
      exact (Work.Discreet.map (closeWork_discreet isKnown id)).task

end Passbook.Service

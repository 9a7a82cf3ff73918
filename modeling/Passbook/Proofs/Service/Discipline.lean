import Passbook.Proofs.Service.Chronicle
import Passbook.Proofs.Service.Movements
/-!
# The discipline of operations

Operations that change something look at no row that they have not locked, and at no entry but under an
identifier that was handed out to them.  All that they have seen is therefore still so when they commit.
Operations that only look keep to no such rule; they look once, or look at an account and, if it is their
user's, at its entries.
-/

namespace Passbook.Session

open Store (Tables Continues)

variable {ν α β : Type}

/-! ### Guarded tasks -/

/-- A row is locked besides those that are. -/
def alsoHeld (id : AccountId) (held : AccountId → Prop) : AccountId → Prop :=
  fun other => other = id ∨ held other

/-- An identifier was handed out besides those that were. -/
def alsoDrawn (id : Uuid) (drawn : Uuid → Prop) : Uuid → Prop :=
  fun other => other = id ∨ drawn other

/-- A task looks at rows that it has locked and at entries under identifiers that were handed out to it, and
an injected fault ends it. -/
def Task.Guarded : Task ν α → (AccountId → Prop) → (Uuid → Prop) → Prop
  | .done _, _, _ => True
  | .panic _, _, _ => False
  | .lockRow id next, held, drawn => next.Guarded (alsoHeld id held) drawn
  | .readAccount id next, held, drawn => held id ∧ ∀ row, (next row).Guarded held drawn
  | .readEntry id next, held, drawn => drawn id.uuid ∧ ∀ row, (next row).Guarded held drawn
  | .readHistory _ _ _, _, _ => False
  | .takeInsertFault next, held, drawn =>
      next true = .done (.error (Store.injected "transaction insert")) ∧
        (next false).Guarded held drawn
  | .putAccount _ next, held, drawn => next.Guarded held drawn
  | .addEntry entry next, held, drawn => drawn entry.id.uuid ∧ next.Guarded held drawn
  | .now next, held, drawn => ∀ time, (next time).Guarded held drawn
  | .newId next, held, drawn => ∀ id, (next id).Guarded held (alsoDrawn id drawn)
  | .convert _ _ next, held, drawn => ∀ answer, (next answer).Guarded held drawn
  | .sleep _ next, held, drawn => next.Guarded held drawn
  | .note _ next, held, drawn => next.Guarded held drawn

/-! ### Guarded work -/

/-- What is locked after a store call. -/
def locked : Store.Call → (AccountId → Prop) → AccountId → Prop
  | .accountForUpdate id, held | .deleteAccount id, held => alsoHeld id held
  | .createAccount account, held | .updateAccount account, held => alsoHeld account.id held
  | _, held => held

/-- The store calls of guarded work: those that lock the row they are about, and the recording of an entry,
for a row that is locked and under an identifier that was handed out. -/
def Permitted (held : AccountId → Prop) (drawn : Uuid → Prop) : Store.Call → Prop
  | .accountForUpdate _ | .createAccount _ | .updateAccount _ | .deleteAccount _ => True
  | .createEntry entry => held entry.account ∧ drawn entry.id.uuid
  | .account _ | .accountIncludingClosed _ | .entry _ | .history _ _ => False

/-- Work whose task is guarded, and what holds of its result, the rows it has locked and the identifiers
handed out to it.  An error ends it. -/
def Work.Guarded (post : α → (AccountId → Prop) → (Uuid → Prop) → Prop) :
    Work ν α → (AccountId → Prop) → (Uuid → Prop) → Prop
  | .done (.ok a), held, drawn => post a held drawn
  | .done (.error _), _, _ => True
  | .panic _, _, _ => False
  | .call query next, held, drawn =>
      Permitted held drawn query ∧ (∀ e, next (.error e) = .done (.error e)) ∧
        ∀ answer, (next (.ok answer)).Guarded post (locked query held) drawn
  | .now next, held, drawn => ∀ time, (next time).Guarded post held drawn
  | .newId next, held, drawn => ∀ id, (next id).Guarded post held (alsoDrawn id drawn)
  | .convert _ _ next, held, drawn => ∀ answer, (next answer).Guarded post held drawn
  | .sleep _ next, held, drawn => next.Guarded post held drawn
  | .note _ next, held, drawn => next.Guarded post held drawn

namespace Work.Guarded

variable {held : AccountId → Prop} {drawn : Uuid → Prop}

/-- Guarded work may go on with guarded work. -/
theorem bind {work : Work ν α} {f : α → Work ν β}
    {post : β → (AccountId → Prop) → (Uuid → Prop) → Prop} :
    ∀ {held drawn}, work.Guarded (fun a held drawn => (f a).Guarded post held drawn) held drawn →
      (work >>= f).Guarded post held drawn := by
  induction work with
  | done result =>
      intro held drawn guarded
      cases result with
      | ok a => exact guarded
      | error e => trivial
  | panic text =>
      intro held drawn guarded
      exact guarded
  | call call next inductionHypothesis =>
      rintro held drawn ⟨permitted, ends, goesOn⟩
      refine ⟨permitted, ?_, fun answer => inductionHypothesis _ (goesOn answer)⟩
      intro e
      dsimp only
      rw [ends e]
      rfl
  | now next inductionHypothesis =>
      intro held drawn guarded time
      exact inductionHypothesis time (guarded time)
  | newId next inductionHypothesis =>
      intro held drawn guarded id
      exact inductionHypothesis id (guarded id)
  | convert amount target next inductionHypothesis =>
      intro held drawn guarded answer
      exact inductionHypothesis answer (guarded answer)
  | sleep millis next inductionHypothesis =>
      intro held drawn guarded
      exact inductionHypothesis guarded
  | note entry next inductionHypothesis =>
      intro held drawn guarded
      exact inductionHypothesis guarded

theorem map {work : Work ν α} {f : α → β} (guarded : work.Guarded (fun _ _ _ => True) held drawn) :
    (f <$> work).Guarded (fun _ _ _ => True) held drawn :=
  bind guarded

/-- A result that may be an error. -/
theorem ofExcept {result : Except LedgerError α} {f : α → Work ν β}
    {post : β → (AccountId → Prop) → (Uuid → Prop) → Prop}
    (guarded : ∀ a, result = .ok a → (f a).Guarded post held drawn) :
    (Work.ofExcept result >>= f).Guarded post held drawn := by
  cases result with
  | error e => trivial
  | ok a => exact guarded a rfl

/-- A store call that is permitted. -/
theorem ask {call : Store.Call} {f : call.Answer → Work ν β}
    {post : β → (AccountId → Prop) → (Uuid → Prop) → Prop} (permitted : Permitted held drawn call)
    (guarded : ∀ answer, (f answer).Guarded post (locked call held) drawn) :
    (Work.ask call >>= f).Guarded post held drawn :=
  ⟨permitted, fun _ => rfl, guarded⟩

theorem clock {f : Timestamp → Work ν β} {post : β → (AccountId → Prop) → (Uuid → Prop) → Prop}
    (guarded : ∀ time, (f time).Guarded post held drawn) :
    (Work.clock >>= f).Guarded post held drawn :=
  guarded

theorem freshId {f : Uuid → Work ν β} {post : β → (AccountId → Prop) → (Uuid → Prop) → Prop}
    (guarded : ∀ id, (f id).Guarded post held (alsoDrawn id drawn)) :
    (Work.freshId >>= f).Guarded post held drawn :=
  guarded

private theorem write_guarded {row : Except LedgerError Account}
    {next : Except LedgerError Unit → Task ν α}
    (ends : ∀ e, next (.error e) = .done (.error e))
    (goesOn : (next (.ok ())).Guarded held drawn) : (perform.write row next).Guarded held drawn := by
  cases row with
  | error e =>
      rw [perform.write, ends]
      trivial
  | ok account => exact goesOn

/-- The accesses of a call are guarded if the call is permitted. -/
theorem perform {call : Store.Call} {next : Except LedgerError call.Answer → Task ν α}
    (permitted : Permitted held drawn call) (ends : ∀ e, next (.error e) = .done (.error e))
    (goesOn : ∀ answer, (next (.ok answer)).Guarded (locked call held) drawn) :
    (perform call next).Guarded held drawn := by
  have settle : ∀ (answer : Except LedgerError call.Answer), (next answer).Guarded (locked call held) drawn := by
    intro answer
    cases answer with
    | error e =>
        rw [ends]
        trivial
    | ok answer => exact goesOn answer
  cases call with
  | account | accountIncludingClosed | entry | history => cases permitted
  | accountForUpdate id => exact ⟨.inl rfl, fun row => settle _⟩
  | createAccount account => exact ⟨.inl rfl, fun row => write_guarded ends (goesOn ())⟩
  | updateAccount account => exact ⟨.inl rfl, fun row => write_guarded ends (goesOn ())⟩
  | deleteAccount id =>
      refine ⟨.inl rfl, fun row => ?_⟩
      dsimp only
      split
      · exact settle _
      · exact fun time => write_guarded ends (goesOn ())
  | createEntry entry =>
      refine ⟨ends _, permitted.1, fun row => ?_⟩
      dsimp only
      split
      · exact settle _
      · refine ⟨permitted.2, fun row => ?_⟩
        dsimp only
        split
        · exact settle _
        · exact ⟨permitted.2, goesOn ()⟩

/-- The task of guarded work is guarded. -/
theorem task {work : Work ν α} {post : α → (AccountId → Prop) → (Uuid → Prop) → Prop} :
    ∀ {held drawn}, work.Guarded post held drawn → work.task.Guarded held drawn := by
  induction work with
  | done result =>
      intro held drawn _
      trivial
  | panic text =>
      intro held drawn guarded
      exact guarded
  | call call next inductionHypothesis =>
      rintro held drawn ⟨permitted, ends, goesOn⟩
      refine perform permitted ?_ fun answer => inductionHypothesis _ (goesOn answer)
      intro e
      rw [ends e]
      rfl
  | now next inductionHypothesis =>
      intro held drawn guarded time
      exact inductionHypothesis time (guarded time)
  | newId next inductionHypothesis =>
      intro held drawn guarded id
      exact inductionHypothesis id (guarded id)
  | convert amount target next inductionHypothesis =>
      intro held drawn guarded answer
      exact inductionHypothesis answer (guarded answer)
  | sleep millis next inductionHypothesis =>
      intro held drawn guarded
      exact inductionHypothesis guarded
  | note entry next inductionHypothesis =>
      intro held drawn guarded
      exact inductionHypothesis guarded

end Work.Guarded

/-! ### Tasks that look -/

/-- A task that looks once, or at a row and then, as long as the account goes on, at a history. -/
inductive Task.Looks : Task ν α → Prop where
  | readEntry (id : TransactionId) (next : Option LedgerEntry → Task ν α)
      (once : ∀ row, ∃ result, next row = .done result) : Looks (.readEntry id next)
  | readAccount (id : AccountId) (next : Option Account → Task ν α)
      (once : ∀ row, (∃ result, next row = .done result) ∨
        ∃ user account rest, next row = .readHistory user account rest ∧
          (∀ entries, ∃ result, rest entries = .done result) ∧
            ∀ row', Continues row row' → next row' = next row) : Looks (.readAccount id next)

private theorem execute_done_empty {committed written : Tables} {task : Task ν α}
    {readings : List Reading} {outcome : Outcome α} (done : ∃ result, task = .done result)
    (carried : task.execute committed .empty readings = some (outcome, written)) : written = .empty := by
  obtain ⟨result, rfl⟩ := done
  cases readings with
  | nil =>
      cases carried
      rfl
  | cons => cases carried

/-- Who only looks writes nothing. -/
theorem Task.Looks.written_eq {committed written : Tables} {task : Task ν α} {readings : List Reading}
    {outcome : Outcome α} (looks : task.Looks)
    (carried : task.execute committed .empty readings = some (outcome, written)) : written = .empty := by
  cases looks with
  | readEntry id next once =>
      rw [Task.execute] at carried
      exact execute_done_empty (once _) carried
  | readAccount id next once =>
      rw [Task.execute] at carried
      rcases once (Tables.visibleAccount? committed .empty id) with done | ⟨user, account, rest, goesOn, done, _⟩
      · exact execute_done_empty done carried
      · rw [goesOn, Task.execute] at carried
        exact execute_done_empty (done _) carried

/-- Who goes on to look at a history looks at nothing after it, and would go on to it from any later row of
the account. -/
theorem Task.Looks.goesOn {id : AccountId} {next : Option Account → Task ν α} {row : Option Account}
    {user : UserId} {account : AccountId} {rest : List LedgerEntry → Task ν α}
    (looks : (Task.readAccount id next).Looks) (goesOn : next row = .readHistory user account rest) :
    (∀ entries, ∃ result, rest entries = .done result) ∧
      ∀ row', Continues row row' → next row' = .readHistory user account rest := by
  cases looks with
  | readAccount id next once =>
      rcases once row with ⟨result, done⟩ | ⟨user', account', rest', goesOn', last, stable⟩
      · rw [goesOn] at done
        cases done
      · rw [goesOn] at goesOn'
        cases goesOn'
        refine ⟨last, ?_⟩
        intro row' continues
        rw [stable row' continues, goesOn]

/-- Work that has nothing more to ask. -/
def Work.Settles (work : Work ν α) : Prop := ∃ result, work = .done result

namespace Work.Settles

theorem ofExcept (result : Except LedgerError α) : (Work.ofExcept result : Work ν α).Settles :=
  ⟨result, rfl⟩

theorem bind {work : Work ν α} {f : α → Work ν β} (settles : work.Settles)
    (goesOn : ∀ a, (f a).Settles) : (work >>= f).Settles := by
  obtain ⟨result, rfl⟩ := settles
  cases result with
  | error e => exact ⟨.error e, rfl⟩
  | ok a => exact goesOn a

theorem map {work : Work ν α} (settles : work.Settles) (f : α → β) : (f <$> work).Settles :=
  settles.bind fun a => ⟨.ok (f a), rfl⟩

theorem task {work : Work ν α} (settles : work.Settles) : ∃ result, work.task = .done result := by
  obtain ⟨result, rfl⟩ := settles
  exact ⟨result, rfl⟩

end Work.Settles

end Passbook.Session

namespace Passbook.Service

open Session (Work)

/-! ### Operations that change something -/

section Operations

variable {held : AccountId → Prop} {drawn : Uuid → Prop}

theorem openWork_guarded (user : UserId) (currency : Currency) :
    (openWork user currency : Work Empty Account).Guarded (fun _ _ _ => True) held drawn := by
  apply Work.Guarded.freshId
  intro id
  apply Work.Guarded.clock
  intro time
  exact .ask trivial fun _ => trivial

theorem closeWork_guarded (user : UserId) (id : AccountId) :
    (closeWork user id : Work Empty Unit).Guarded (fun _ _ _ => True) held drawn := by
  refine .ask trivial ?_
  intro account
  apply Work.Guarded.ofExcept
  intro _ _
  apply Work.Guarded.clock
  intro time
  apply Work.Guarded.ofExcept
  intro _ _
  exact ⟨trivial, fun _ => rfl, fun _ => trivial⟩

/-- A conversion locks nothing and draws no identifier. -/
theorem convertWork_guarded (amount : Money) (target : Currency) {β : Type}
    {post : β → (AccountId → Prop) → (Uuid → Prop) → Prop}
    {f : Money × Option ConversionInfo → Work Empty β}
    (guarded : ∀ applied, (f applied).Guarded post held drawn) :
    (convertWork amount target >>= f).Guarded post held drawn := by
  rcases convertWork_cases amount target with same | ⟨come, same⟩
  · rw [same]
    exact guarded _
  · rw [same]
    exact fun answer => .ofExcept fun applied _ => guarded applied

/-- The entry of a movement is for the account that was locked, under the identifier that was handed out
for it. -/
theorem moveWork_guarded (user : UserId) (direction : Direction) (request : MovementRequest) :
    (moveWork user direction request : Work Empty LedgerEntry).Guarded (fun _ _ _ => True)
      held drawn := by
  refine .ask trivial ?_
  intro account
  apply Work.Guarded.ofExcept
  intro _ _
  apply Work.Guarded.ofExcept
  intro amount _
  apply convertWork_guarded amount account.currency
  rintro ⟨applied, conversion⟩
  apply Work.Guarded.clock
  intro time
  apply Work.Guarded.ofExcept
  rintro ⟨moved, signed⟩ _
  refine .ask trivial ?_
  intro _
  apply Work.Guarded.freshId
  intro id
  apply Work.Guarded.ofExcept
  intro entry recorded
  obtain ⟨_, _, rfl⟩ := LedgerEntry.record_eq_ok recorded
  exact .ask ⟨.inl rfl, .inl rfl⟩ fun _ => trivial

end Operations

/-! ### Operations that look -/

/-- What remains of a look at an account once its row was read. -/
private theorem accountWork_settles (user : UserId) (id : AccountId) (row : Except LedgerError Account) :
    (Work.done row >>= fun account => Work.ofExcept (requireOwned id user account) :
      Work Empty Account).Settles :=
  .bind (.ofExcept row) fun _ => .ofExcept _

/-- What remains of a look at an entry once it was read. -/
private theorem transactionWork_settles (user : UserId) (id : TransactionId)
    (row : Except LedgerError LedgerEntry) :
    (Work.done row >>= fun entry => if entry.user = user then return entry
      else Work.fail (.notFound s!"transaction {id}") : Work Empty LedgerEntry).Settles := by
  apply Work.Settles.bind (.ofExcept row)
  intro entry
  split
  · exact ⟨_, rfl⟩
  · exact ⟨_, rfl⟩

/-- What remains of a look at a history once the row of the account was read. -/
private def historyRest (user : UserId) (id : AccountId) (row : Option Account) :
    Session.Task Empty Answer :=
  (Answer.history <$> (Work.done (Store.requireAccount id row) >>= fun account =>
    Work.ofExcept (requireOwned id user account) >>= fun _ => Work.ask (.history user id))).task

private theorem historyRest_of_owned {user : UserId} {account : Account} (id : AccountId)
    (owned : account.isOwnedBy user = true) :
    historyRest user id (some account) =
      .readHistory user id fun entries => .done (.ok (.history entries)) := by
  simp only [historyRest, Store.requireAccount, requireOwned, bind, Work.bind, Work.ofExcept, owned,
    if_true]
  rfl

private theorem historyRest_of_not_owned {user : UserId} {account : Account} (id : AccountId)
    (foreign : account.isOwnedBy user = false) :
    ∃ result, historyRest user id (some account) = .done result := by
  simp only [historyRest, Store.requireAccount, requireOwned, bind, Work.bind, Work.ofExcept, foreign]
  exact ⟨_, rfl⟩

namespace Operation

def isLook : Operation → Bool
  | account _ | balance _ | history _ | transaction _ => true
  | openAccount _ | move _ _ | closeAccount _ => false

variable (defaultCurrency : Currency) (user : UserId) {operation : Operation}

/-- The task of an operation that changes something is guarded from the beginning. -/
theorem task_guarded (changes : operation.isLook = false) :
    (operation.task defaultCurrency user).Guarded (fun _ => False) (fun _ => False) := by
  cases operation with
  | openAccount currency => exact (Work.Guarded.map (openWork_guarded user _)).task
  | move direction request => exact (Work.Guarded.map (moveWork_guarded user direction request)).task
  | closeAccount id => exact (Work.Guarded.map (closeWork_guarded user id)).task
  | account | balance | history | transaction => cases changes

/-- All others look. -/
theorem task_looks (looks : operation.isLook = true) :
    (operation.task defaultCurrency user).Looks := by
  cases operation with
  | openAccount | move | closeAccount => cases looks
  | account id =>
      exact .readAccount id _ fun row => .inl ((accountWork_settles user id _).map _).task
  | balance id =>
      exact .readAccount id _ fun row => .inl ((accountWork_settles user id _).map _).task
  | transaction id =>
      exact .readEntry id _ fun row => ((transactionWork_settles user id _).map _).task
  | history id =>
      refine .readAccount id (historyRest user id) fun row => ?_
      cases row with
      | none => exact .inl ⟨_, rfl⟩
      | some account =>
          cases owned : account.isOwnedBy user with
          | false => exact .inl (historyRest_of_not_owned id owned)
          | true =>
              have goesOn := historyRest_of_owned id owned
              refine .inr ⟨user, id, _, goesOn, fun entries => ⟨_, rfl⟩, ?_⟩
              -- The account stays its owner's, whatever else becomes of it.
              intro row' continues
              obtain ⟨account', rfl, same⟩ := continues account rfl
              have owned' : account'.isOwnedBy user = true := by
                rwa [Account.isOwnedBy, same.owner]
              rw [historyRest_of_owned id owned', goesOn]

end Operation

end Passbook.Service

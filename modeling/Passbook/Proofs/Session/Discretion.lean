import Passbook.Proofs.Service.Discipline
/-!
# Discretion

Whether a task that is carried out for a user tells rows of others apart.  A discreet task goes the same way
whatever it finds of others': it looks at the user's own histories only, writes rows and entries of the user
only, and when a row is not the user's it goes on as with any other that is not.  It may be known of the
accounts of others which of them are there and open, and then a task may depend on that.
-/

namespace Passbook.Session

open Store (Call)

variable {ν α β : Type}

/-! ### Rows of others -/

/-- Nothing of a user's is found where an account is sought. -/
def Foreign (user : UserId) (row : Option Account) : Prop := ∀ account, row = some account → account.owner ≠ user

/-- Nothing of a user's is found where an entry is sought. -/
def ForeignEntry (user : UserId) (row : Option LedgerEntry) : Prop := ∀ entry, row = some entry → entry.user ≠ user

/-- An account is there, and open. -/
def isLive (row : Option Account) : Bool := row.any (!·.isDeleted)

/-- Neither of two rows is a user's, and if it is known which accounts are open then both are or neither is.
Under a fresh identifier there is none. -/
structure Indistinct (user : UserId) (known : Prop) (fresh : Prop) (row row' : Option Account) : Prop where
  foreign : Foreign user row
  foreign' : Foreign user row'
  live : known → isLive row = isLive row'
  absent : fresh → row = none ∧ row' = none

/-- Neither of two entries is a user's.  Under a fresh identifier there is none. -/
structure IndistinctEntry (user : UserId) (fresh : Prop) (row row' : Option LedgerEntry) : Prop where
  foreign : ForeignEntry user row
  foreign' : ForeignEntry user row'
  absent : fresh → row = none ∧ row' = none

/-- What is to hold of whoever looks for an account: if it is the user's they may go on knowing so, and if it
is not then they go on from one row as from any other that is not to be told from it. -/
def HeedsRow (user : UserId) (known : Prop) (id : AccountId) (own : AccountId → Prop) (drawn : Uuid → Prop)
    (same : Option Account → Option Account → Prop)
    (onward : Option Account → (AccountId → Prop) → Prop) : Prop :=
  (∀ account, account.id = id → account.owner = user → onward (some account) (alsoHeld id own)) ∧
    (own id ∨ ∀ row row', Indistinct user known (drawn id.uuid) row row' → same row row' ∧ onward row own)

def HeedsEntry (user : UserId) (id : TransactionId) (drawn : Uuid → Prop)
    (same : Option LedgerEntry → Option LedgerEntry → Prop) (onward : Option LedgerEntry → Prop) : Prop :=
  (∀ entry, entry.id = id → entry.user = user → onward (some entry)) ∧
    ∀ row row', IndistinctEntry user (drawn id.uuid) row row' → same row row' ∧ onward row

section Heeds

variable {user : UserId} {known : Prop} {own more : AccountId → Prop} {drawn further : Uuid → Prop}

theorem HeedsRow.imp {id : AccountId} {same same' : Option Account → Option Account → Prop}
    {onward onward' : Option Account → (AccountId → Prop) → Prop}
    (heeds : HeedsRow user known id own drawn same onward)
    (alike : ∀ row row', same row row' → same' row row')
    (goesOn : ∀ row own, onward row own → onward' row own) :
    HeedsRow user known id own drawn same' onward' := by
  refine ⟨fun account standing owner => goesOn _ _ (heeds.1 account standing owner), ?_⟩
  rcases heeds.2 with mine | others
  · exact .inl mine
  · refine .inr fun row row' indistinct => ?_
    obtain ⟨equal, onward⟩ := others row row' indistinct
    exact ⟨alike row row' equal, goesOn row own onward⟩

theorem HeedsRow.mono {id : AccountId} {same : Option Account → Option Account → Prop}
    {onward : Option Account → (AccountId → Prop) → Prop}
    (heeds : HeedsRow user known id own drawn same onward) (wider : ∀ id, own id → more id)
    (later : ∀ id, drawn id → further id)
    (widens : ∀ row {own more : AccountId → Prop}, (∀ id, own id → more id) → onward row own →
      onward row more) : HeedsRow user known id more further same onward := by
  refine ⟨?_, ?_⟩
  · intro account standing owner
    refine widens _ ?_ (heeds.1 account standing owner)
    rintro other (rfl | held)
    · exact .inl rfl
    · exact .inr (wider other held)
  · rcases heeds.2 with mine | others
    · exact .inl (wider id mine)
    · refine .inr fun row row' indistinct => ?_
      obtain ⟨equal, onward⟩ := others row row'
        ⟨indistinct.foreign, indistinct.foreign', indistinct.live,
          fun handedOut => indistinct.absent (later _ handedOut)⟩
      exact ⟨equal, widens row wider onward⟩

theorem HeedsEntry.imp {id : TransactionId} {same same' : Option LedgerEntry → Option LedgerEntry → Prop}
    {onward onward' : Option LedgerEntry → Prop} (heeds : HeedsEntry user id drawn same onward)
    (alike : ∀ row row', same row row' → same' row row') (goesOn : ∀ row, onward row → onward' row) :
    HeedsEntry user id drawn same' onward' := by
  refine ⟨fun entry standing owner => goesOn _ (heeds.1 entry standing owner), ?_⟩
  intro row row' indistinct
  obtain ⟨equal, onward⟩ := heeds.2 row row' indistinct
  exact ⟨alike row row' equal, goesOn row onward⟩

theorem HeedsEntry.mono {id : TransactionId} {same : Option LedgerEntry → Option LedgerEntry → Prop}
    {onward : Option LedgerEntry → Prop} (heeds : HeedsEntry user id drawn same onward)
    (later : ∀ id, drawn id → further id) : HeedsEntry user id further same onward :=
  ⟨heeds.1, fun row row' indistinct => heeds.2 row row'
    ⟨indistinct.foreign, indistinct.foreign', fun handedOut => indistinct.absent (later _ handedOut)⟩⟩

end Heeds

/-! ### Discreet tasks -/

/-- A task is discreet for a user that knows some accounts to be their own and to which some identifiers were
handed out. -/
def Task.Discreet (user : UserId) (known : Prop) : Task ν α → (AccountId → Prop) → (Uuid → Prop) → Prop
  | .done _, _, _ | .panic _, _, _ => True
  | .lockRow _ next, own, drawn => next.Discreet user known own drawn
  | .readAccount id next, own, drawn =>
      HeedsRow user known id own drawn (fun row row' => next row = next row')
        fun row own => (next row).Discreet user known own drawn
  | .readEntry id next, own, drawn =>
      HeedsEntry user id drawn (fun row row' => next row = next row')
        fun row => (next row).Discreet user known own drawn
  | .readHistory other _ next, own, drawn =>
      other = user ∧ ∀ entries, (next entries).Discreet user known own drawn
  | .takeInsertFault next, own, drawn => ∀ armed, (next armed).Discreet user known own drawn
  | .putAccount account next, own, drawn => account.owner = user ∧ next.Discreet user known own drawn
  | .addEntry entry next, own, drawn =>
      entry.user = user ∧ drawn entry.id.uuid ∧ next.Discreet user known own drawn
  | .now next, own, drawn => ∀ time, (next time).Discreet user known own drawn
  | .newId next, own, drawn => ∀ id, (next id).Discreet user known own (alsoDrawn id drawn)
  | .convert _ _ next, own, drawn => ∀ answer, (next answer).Discreet user known own drawn
  | .sleep _ next, own, drawn => next.Discreet user known own drawn
  | .note _ next, own, drawn => next.Discreet user known own drawn

/-- It does no harm to know more accounts to be one's own, or to have been handed out more identifiers. -/
theorem Task.Discreet.mono {user : UserId} {known : Prop} {task : Task ν α} {own more : AccountId → Prop}
    {drawn further : Uuid → Prop} (discreet : task.Discreet user known own drawn)
    (wider : ∀ id, own id → more id) (later : ∀ id, drawn id → further id) :
    task.Discreet user known more further := by
  induction task generalizing own more drawn further with
  | done | panic => trivial
  | lockRow id next inductionHypothesis | sleep millis next inductionHypothesis
  | note entry next inductionHypothesis => exact inductionHypothesis discreet wider later
  | readAccount id next inductionHypothesis =>
      refine (HeedsRow.imp discreet (fun _ _ same => same) fun row _ onward =>
        inductionHypothesis row onward (fun _ mine => mine) later).mono wider later ?_
      exact fun row _ _ wider onward => inductionHypothesis row onward wider fun _ handedOut => handedOut
  | readEntry id next inductionHypothesis =>
      exact (HeedsEntry.imp discreet (fun _ _ same => same) fun row onward =>
        inductionHypothesis row onward wider later).mono later
  | readHistory other account next inductionHypothesis =>
      exact ⟨discreet.1, fun entries => inductionHypothesis entries (discreet.2 entries) wider later⟩
  | takeInsertFault next inductionHypothesis =>
      exact fun armed => inductionHypothesis armed (discreet armed) wider later
  | putAccount account next inductionHypothesis =>
      exact ⟨discreet.1, inductionHypothesis discreet.2 wider later⟩
  | addEntry entry next inductionHypothesis =>
      exact ⟨discreet.1, later _ discreet.2.1, inductionHypothesis discreet.2.2 wider later⟩
  | now next inductionHypothesis => exact fun time => inductionHypothesis time (discreet time) wider later
  | newId next inductionHypothesis =>
      exact fun id => inductionHypothesis id (discreet id) wider fun _ => Or.imp_right (later _)
  | convert amount target next inductionHypothesis =>
      exact fun answer => inductionHypothesis answer (discreet answer) wider later

/-! ### Discreet work -/

/-- What is to hold of a store call that is made for a user, given how the work goes on from its answers. -/
def HeedsCall (user : UserId) (known : Prop) (own : AccountId → Prop) (drawn : Uuid → Prop) :
    (call : Call) → (same : Except LedgerError call.Answer → Except LedgerError call.Answer → Prop) →
      (onward : Except LedgerError call.Answer → (AccountId → Prop) → Prop) → Prop
  | .account id, same, onward | .accountForUpdate id, same, onward =>
      HeedsRow user known id own drawn
        (fun row row' => same (Store.requireLive id row) (Store.requireLive id row'))
        fun row => onward (Store.requireLive id row)
  | .accountIncludingClosed id, same, onward =>
      HeedsRow user known id own drawn
        (fun row row' => same (Store.requireAccount id row) (Store.requireAccount id row'))
        fun row => onward (Store.requireAccount id row)
  | .createAccount account, _, onward =>
      account.owner = user ∧ drawn account.id.uuid ∧ ∀ answer, onward answer own
  | .updateAccount account, _, onward => own account.id ∧ ∀ answer, onward answer own
  | .deleteAccount id, _, onward => own id ∧ ∀ answer, onward answer own
  | .createEntry entry, _, onward =>
      entry.user = user ∧ own entry.account ∧ drawn entry.id.uuid ∧ ∀ answer, onward answer own
  | .entry id, same, onward =>
      HeedsEntry user id drawn
        (fun row row' => same (Store.requireEntry id row) (Store.requireEntry id row'))
        fun row => onward (Store.requireEntry id row) own
  | .history other _, _, onward => other = user ∧ ∀ answer, onward answer own

/-- Work whose task is discreet, and what holds of its result, the accounts it knows to be the user's and the
identifiers handed out to it. -/
def Work.Discreet (user : UserId) (known : Prop) (post : α → (AccountId → Prop) → (Uuid → Prop) → Prop) :
    Work ν α → (AccountId → Prop) → (Uuid → Prop) → Prop
  | .done (.ok a), own, drawn => post a own drawn
  | .done (.error _), _, _ => True
  | .panic _, _, _ => True
  | .call query next, own, drawn =>
      HeedsCall user known own drawn query (fun answer answer' => next answer = next answer')
        fun answer own => (next answer).Discreet user known post own drawn
  | .now next, own, drawn => ∀ time, (next time).Discreet user known post own drawn
  | .newId next, own, drawn => ∀ id, (next id).Discreet user known post own (alsoDrawn id drawn)
  | .convert _ _ next, own, drawn => ∀ answer, (next answer).Discreet user known post own drawn
  | .sleep _ next, own, drawn => next.Discreet user known post own drawn
  | .note _ next, own, drawn => next.Discreet user known post own drawn

namespace Work.Discreet

variable {user : UserId} {known : Prop} {own : AccountId → Prop} {drawn : Uuid → Prop}

private theorem call_imp {query : Call}
    {same same' : Except LedgerError query.Answer → Except LedgerError query.Answer → Prop}
    {onward onward' : Except LedgerError query.Answer → (AccountId → Prop) → Prop}
    (heeds : HeedsCall user known own drawn query same onward)
    (alike : ∀ answer answer', same answer answer' → same' answer answer')
    (goesOn : ∀ answer own, onward answer own → onward' answer own) :
    HeedsCall user known own drawn query same' onward' := by
  cases query with
  | account | accountForUpdate | accountIncludingClosed =>
      simp only [HeedsCall] at heeds ⊢
      exact heeds.imp (fun _ _ => alike _ _) fun _ => goesOn _
  | createAccount account =>
      exact ⟨heeds.1, heeds.2.1, fun answer => goesOn answer own (heeds.2.2 answer)⟩
  | updateAccount | deleteAccount | history =>
      exact ⟨heeds.1, fun answer => goesOn answer own (heeds.2 answer)⟩
  | createEntry entry =>
      exact ⟨heeds.1, heeds.2.1, heeds.2.2.1, fun answer => goesOn answer own (heeds.2.2.2 answer)⟩
  | entry id =>
      simp only [HeedsCall] at heeds ⊢
      exact heeds.imp (fun _ _ => alike _ _) fun _ => goesOn _ own

/-- Discreet work may go on with discreet work. -/
theorem bind {work : Work ν α} {f : α → Work ν β}
    {post : β → (AccountId → Prop) → (Uuid → Prop) → Prop} :
    ∀ {own drawn},
      work.Discreet user known (fun a own drawn => (f a).Discreet user known post own drawn) own drawn →
        (work >>= f).Discreet user known post own drawn := by
  change ∀ {own drawn},
    work.Discreet user known (fun a own drawn => (f a).Discreet user known post own drawn) own drawn →
      (work.bind f).Discreet user known post own drawn
  induction work with
  | done result =>
      intro own drawn discreet
      cases result with
      | error e => trivial
      | ok a => exact discreet
  | panic text =>
      intro own drawn _
      trivial
  | call query next inductionHypothesis =>
      intro own drawn discreet
      exact call_imp discreet (fun _ _ same => congrArg (·.bind f) same) fun answer own onward =>
        inductionHypothesis answer onward
  | now next inductionHypothesis =>
      intro own drawn discreet time
      exact inductionHypothesis time (discreet time)
  | newId next inductionHypothesis =>
      intro own drawn discreet id
      exact inductionHypothesis id (discreet id)
  | convert amount target next inductionHypothesis =>
      intro own drawn discreet answer
      exact inductionHypothesis answer (discreet answer)
  | sleep millis next inductionHypothesis =>
      intro own drawn discreet
      exact inductionHypothesis discreet
  | note entry next inductionHypothesis =>
      intro own drawn discreet
      exact inductionHypothesis discreet

theorem map {work : Work ν α} {f : α → β}
    (discreet : work.Discreet user known (fun _ _ _ => True) own drawn) :
    (f <$> work).Discreet user known (fun _ _ _ => True) own drawn :=
  bind discreet

/-- A result that may be an error. -/
theorem ofExcept {result : Except LedgerError α} {f : α → Work ν β}
    {post : β → (AccountId → Prop) → (Uuid → Prop) → Prop}
    (discreet : ∀ a, result = .ok a → (f a).Discreet user known post own drawn) :
    (Work.ofExcept result >>= f).Discreet user known post own drawn := by
  cases result with
  | error e => trivial
  | ok a => exact discreet a rfl

/-- Work that has nothing more to ask is discreet. -/
theorem of_settles {work : Work ν α} (settles : work.Settles) :
    work.Discreet user known (fun _ _ _ => True) own drawn := by
  obtain ⟨result, rfl⟩ := settles
  cases result <;> trivial

/-- A store call. -/
theorem ask {call : Call} {f : call.Answer → Work ν β}
    {post : β → (AccountId → Prop) → (Uuid → Prop) → Prop}
    (heeds : HeedsCall user known own drawn call
      (fun answer answer' => (Work.done answer >>= f) = (Work.done answer' >>= f))
      fun answer own => (Work.done answer >>= f).Discreet user known post own drawn) :
    (Work.ask call >>= f).Discreet user known post own drawn :=
  heeds

theorem clock {f : Timestamp → Work ν β} {post : β → (AccountId → Prop) → (Uuid → Prop) → Prop}
    (discreet : ∀ time, (f time).Discreet user known post own drawn) :
    (Work.clock >>= f).Discreet user known post own drawn :=
  discreet

theorem freshId {f : Uuid → Work ν β} {post : β → (AccountId → Prop) → (Uuid → Prop) → Prop}
    (discreet : ∀ id, (f id).Discreet user known post own (alsoDrawn id drawn)) :
    (Work.freshId >>= f).Discreet user known post own drawn :=
  discreet

private theorem write {row : Except LedgerError Account} {next : Except LedgerError Unit → Task ν α}
    (owned : ∀ account, row = .ok account → account.owner = user)
    (onward : ∀ answer, (next answer).Discreet user known own drawn) :
    (perform.write row next).Discreet user known own drawn := by
  cases row with
  | error e => exact onward _
  | ok account => exact ⟨owned account rfl, onward _⟩

/-- The accesses of a call are discreet if the call is. -/
private theorem perform {query : Call} {next : Except LedgerError query.Answer → Task ν α}
    (heeds : HeedsCall user known own drawn query (fun answer answer' => next answer = next answer')
      fun answer own => (next answer).Discreet user known own drawn) :
    (perform query next).Discreet user known own drawn := by
  have widen : ∀ {task : Task ν α} {id : AccountId}, task.Discreet user known own drawn →
      task.Discreet user known (alsoHeld id own) drawn :=
    fun discreet => discreet.mono (fun _ mine => .inr mine) fun _ handedOut => handedOut
  cases query with
  | account | accountForUpdate | accountIncludingClosed | entry => exact heeds
  | history other account => exact ⟨heeds.1, fun entries => heeds.2 (.ok entries)⟩
  | createAccount account =>
      obtain ⟨owner, fresh, onward⟩ := heeds
      refine ⟨?_, .inr ?_⟩
      · intro current _ _
        exact widen (onward _)
      · intro row row' indistinct
        obtain ⟨rfl, rfl⟩ := indistinct.absent fresh
        exact ⟨rfl, owner, onward _⟩
  | updateAccount account =>
      obtain ⟨mine, onward⟩ := heeds
      refine ⟨?_, .inl mine⟩
      intro current _ owner
      refine write ?_ fun answer => widen (onward answer)
      intro written allowed
      obtain ⟨_, ⟨rfl⟩, _, _, _, rfl⟩ := Store.updatedRow_eq_ok allowed
      exact owner
  | deleteAccount id =>
      obtain ⟨mine, onward⟩ := heeds
      refine ⟨?_, .inl mine⟩
      intro current _ owner
      dsimp only
      split
      · exact widen (onward _)
      · intro time
        refine write ?_ fun answer => widen (onward answer)
        intro written allowed
        obtain ⟨_, ⟨rfl⟩, _, rfl⟩ := Store.closedRow_eq_ok allowed
        exact owner
  | createEntry entry =>
      obtain ⟨owner, mine, fresh, onward⟩ := heeds
      intro armed
      cases armed with
      | true => exact onward _
      | false =>
          refine ⟨?_, .inl mine⟩
          intro account _ _
          dsimp only [Store.requireReference]
          refine ⟨?_, ?_⟩
          · intro found _ _
            exact widen (onward _)
          · intro row row' indistinct
            obtain ⟨rfl, rfl⟩ := indistinct.absent fresh
            exact ⟨rfl, owner, fresh, widen (onward _)⟩

/-- The task of discreet work is discreet. -/
theorem task {work : Work ν α} {post : α → (AccountId → Prop) → (Uuid → Prop) → Prop} :
    ∀ {own drawn}, work.Discreet user known post own drawn →
      work.task.Discreet user known own drawn := by
  induction work with
  | done | panic =>
      intro own drawn _
      trivial
  | call query next inductionHypothesis =>
      intro own drawn discreet
      exact perform (call_imp discreet (fun _ _ same => congrArg Work.task same) fun answer own onward =>
        inductionHypothesis answer onward)
  | now next inductionHypothesis =>
      intro own drawn discreet time
      exact inductionHypothesis time (discreet time)
  | newId next inductionHypothesis =>
      intro own drawn discreet id
      exact inductionHypothesis id (discreet id)
  | convert amount target next inductionHypothesis =>
      intro own drawn discreet answer
      exact inductionHypothesis answer (discreet answer)
  | sleep millis next inductionHypothesis =>
      intro own drawn discreet
      exact inductionHypothesis discreet
  | note entry next inductionHypothesis =>
      intro own drawn discreet
      exact inductionHypothesis discreet

end Work.Discreet

end Passbook.Session

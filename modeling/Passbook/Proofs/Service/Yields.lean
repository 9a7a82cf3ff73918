import Passbook.Proofs.Service.Movements
import Passbook.Proofs.Session.Assurance
/-!
# What operations yield

What can come of an operation that runs side by side with others: its answer or its error, and what it has
staged.  The row that it changes is locked from when it is found until the changes are committed, so what is
said of it is said of the row that is committed at that very time; what is read without a lock was committed
at some time.
-/

namespace Passbook.Service

open Session (Work Goal Settles Locked Writes)
open Store (Tables requireLive requireAccount requireEntry)

/-! ### Movements -/

/-- An account after a movement, and the entry that records the movement. -/
structure Records (account moved : Account) (entry : LedgerEntry) : Prop where
  id : moved.id = account.id
  live : moved.isDeleted = false
  entryAccount : entry.account = account.id
  entryUser : entry.user = account.owner
  owner : moved.owner = account.owner
  entryBalance : entry.balance = moved.balance
  /-- The balance changes by the amount of the entry. -/
  sum : moved.balance.amount = account.balance.amount + entry.amount.amount
  currency : moved.currency = account.currency
  entryCurrency : entry.amount.currency = account.currency
  enough : 0 ≤ account.balance.amount → 0 ≤ moved.balance.amount

/-- What is noted of the conversion of an amount for an account in some currency: nothing if it is in that
currency, and else the amount and a rate greater than zero. -/
def Converts (amount : Money) (currency : Currency) : Option ConversionInfo → Prop
  | none => amount.currency = currency
  | some info => amount.currency ≠ currency ∧ info.stated = amount ∧ info.rate.isPositive = true

/-- A movement as its user has requested it: the account before it and after it, and its entry. -/
structure Movement (user : UserId) (request : MovementRequest) (account moved : Account)
    (entry : LedgerEntry) : Prop extends Records account moved entry where
  wasLive : account.isDeleted = false
  owned : account.owner = user
  /-- Nothing of the account changes but its balance and the time of change. -/
  moved_eq : moved = account.withBalance entry.balance entry.createdAt
  something : entry.amount.amount ≠ 0
  source : entry.source = request.source
  target : entry.maskedTarget = request.target.map (·.masked)
  conversion : ∃ amount, request.amount.resolve account.currency = .ok amount ∧
    Converts amount account.currency entry.conversion

def closedAt (account : Account) (now : Timestamp) : Account :=
  { account with updatedAt := now, deletedAt := some now }

/-- Whoever wants to change an account has to find it open, and to own it. -/
def admission (user : UserId) (id : AccountId) (row : Option Account) : Except LedgerError Account := do
  let account ← requireLive id row
  account.ensureOwnedBy user
  return account

theorem admission_of_owner {user : UserId} {id : AccountId} {account : Account}
    (live : account.isDeleted = false) (owned : account.owner = user) :
    admission user id (some account) = .ok account := by
  have allowed : account.ensureOwnedBy user = .ok () := by
    simp [Account.ensureOwnedBy, Account.isOwnedBy, owned]
  simp [admission, requireLive, requireAccount, Option.filter_some, live, allowed, bind, Except.bind,
    pure, Except.pure]

/-! ### Results -/

/-- What can come of an operation of a user, with what it has staged, when some tables are committed.  Tables
that it has only looked at were committed at some time, and satisfy what committed tables satisfy at all
times; identifiers that it was handed out are fresh. -/
inductive Operation.Yields (base : Tables → Prop) (fresh : Uuid → Prop) (defaultCurrency : Currency)
    (user : UserId) (committed : Tables) :
    Operation → Except LedgerError Answer → Tables → Prop where
  /-- An account is opened where there was none. -/
  | opens {currency : Option Currency} {id : Uuid} {now : Timestamp} (isFresh : fresh id)
      (absent : committed.account? ⟨id⟩ = none) :
      Yields base fresh defaultCurrency user committed (.openAccount currency)
        (.ok (.account (.opened ⟨id⟩ user (currency.getD defaultCurrency) now)))
        (Tables.empty.putAccount (.opened ⟨id⟩ user (currency.getD defaultCurrency) now))
  | notOpened {currency : Option Currency} {e : LedgerError} :
      Yields base fresh defaultCurrency user committed (.openAccount currency) (.error e) .empty
  /-- Funds are moved, and the movement is recorded under an identifier that no entry had. -/
  | moves {direction : Direction} {request : MovementRequest} {account moved : Account}
      {entry : LedgerEntry} (found : committed.account? request.account = some account)
      (movement : Movement user request account moved entry)
      (unused : ∃ seen, base seen ∧ seen.entry? entry.id = none) :
      Yields base fresh defaultCurrency user committed (.move direction request) (.ok (.entry entry))
        ((Tables.empty.putAccount moved).addEntry entry)
  /-- No funds are moved.  Whoever may not change the account is told so. -/
  | notMoved {direction : Direction} {request : MovementRequest} {e : LedgerError} {staged : Tables}
      (because : ∀ refusal,
        admission user request.account (committed.account? request.account) = .error refusal →
          e = refusal) :
      Yields base fresh defaultCurrency user committed (.move direction request) (.error e) staged
  /-- An account that holds nothing is closed. -/
  | closes {id : AccountId} {account : Account} {now : Timestamp}
      (found : committed.account? id = some account) (live : account.isDeleted = false)
      (owned : account.owner = user) (holdsNothing : account.balance.amount = 0) :
      Yields base fresh defaultCurrency user committed (.closeAccount id) (.ok .closed)
        (Tables.empty.putAccount (closedAt account now))
  /-- No account is closed.  Whoever may not change it is told so. -/
  | notClosed {id : AccountId} {e : LedgerError}
      (because : ∀ refusal, admission user id (committed.account? id) = .error refusal → e = refusal) :
      Yields base fresh defaultCurrency user committed (.closeAccount id) (.error e) .empty
  | account {id : AccountId} {result : Except LedgerError Answer} (seen : Tables) (known : base seen)
      (eq : result = Answer.account <$> (requireLive id (seen.account? id) >>= requireOwned id user)) :
      Yields base fresh defaultCurrency user committed (.account id) result .empty
  | balance {id : AccountId} {result : Except LedgerError Answer} (seen : Tables) (known : base seen)
      (eq : result = (fun account => Answer.balance account.balance) <$>
        (requireLive id (seen.account? id) >>= requireOwned id user)) :
      Yields base fresh defaultCurrency user committed (.balance id) result .empty
  | history {id : AccountId} {result : Except LedgerError Answer} (seen later : Tables)
      (known : base seen) (known' : base later)
      (eq : result = (fun _ => Answer.history (later.history user id)) <$>
        (requireAccount id (seen.account? id) >>= requireOwned id user)) :
      Yields base fresh defaultCurrency user committed (.history id) result .empty
  | transaction {id : TransactionId} {result : Except LedgerError Answer} (seen : Tables)
      (known : base seen)
      (eq : result = Answer.entry <$> (requireEntry id (seen.entry? id) >>= fun entry =>
        if entry.user = user then .ok entry else .error (.notFound s!"transaction {id}"))) :
      Yields base fresh defaultCurrency user committed (.transaction id) result .empty

section Works

variable {base : Tables → Prop} {fresh : Uuid → Prop} {user : UserId} {defaultCurrency : Currency} {β : Type}
  {expects : Tables → Prop} {staged : Tables}

/-- Work that begins by locking the row of an account and by seeing whether the user may change it. -/
private theorem admission_assures {goal : Goal β} {id : AccountId} {f : Account → Work Empty β}
    (refuses : ∀ e found, expects found → admission user id (found.account? id) = .error e →
      goal (.error e) (Locked expects id (found.account? id)) .empty)
    (goesOn : ∀ account found, expects found → found.account? id = some account →
      account.isDeleted = false → account.owner = user →
        (f account).Assures fresh goal (Locked expects id (some account)) .empty) :
    (Work.ask (.accountForUpdate id) >>= fun account =>
      Work.ofExcept (account.ensureOwnedBy user) >>= fun _ => f account).Assures fresh goal expects
        .empty := by
  apply Work.Assures.ask
  · rintro e _ _ ⟨found, expected, refused, rfl, rfl⟩
    apply refuses e found expected
    rw [admission, ← Tables.visibleAccount?_empty found, ← refused]
    rfl
  · rintro account _ _ ⟨found, expected, allowed, rfl, rfl⟩
    obtain ⟨here, live⟩ := Store.requireLive_eq_ok allowed.symm
    rw [Tables.visibleAccount?_empty] at here allowed
    apply Work.Assures.ofExcept
    · intro e foreign
      apply refuses e found expected
      rw [admission, ← allowed]
      simp only [bind, Except.bind, foreign]
    · intro _ owned
      rw [here]
      exact goesOn account found expected here live (Account.ensureOwnedBy_eq_ok owned)

/-- A new account is opened where there was none. -/
private theorem openWork_assures (user : UserId) (defaultCurrency : Currency)
    (currency : Option Currency) :
    (openWork user (currency.getD defaultCurrency) : Work Empty Account).Assures fresh
      (fun result => Settles (fun result committed staged =>
        (Operation.openAccount currency).Yields base fresh defaultCurrency user committed result staged)
          (Answer.account <$> result)) expects .empty := by
  apply Work.Assures.freshId
  intro id isFresh
  apply Work.Assures.clock
  intro now
  apply Work.Assures.ask
  · rintro e _ after ⟨found, _, rfl, writes⟩ tables _
    obtain ⟨_, rfl⟩ := writes.of_error
    exact .notOpened
  · rintro _ _ after ⟨found, _, rfl, writes⟩ tables ⟨_, same⟩
    obtain ⟨row, allowed, rfl⟩ := writes.of_ok
    obtain ⟨absent, rfl⟩ := Store.newRow_eq_ok allowed
    exact .opens isFresh (same.trans absent)

/-- An account that holds nothing is closed. -/
private theorem closeWork_assures (user : UserId) (id : AccountId) :
    (closeWork user id : Work Empty Unit).Assures fresh
      (fun result => Settles (fun result committed staged =>
        (Operation.closeAccount id).Yields base fresh defaultCurrency user committed result staged)
          ((fun _ => Answer.closed) <$> result)) expects .empty := by
  -- Once the account has been admitted, no error has anything to do with who the user is.
  have admitted : ∀ {account : Account} {tables : Tables} {e : LedgerError},
      tables.account? id = some account → account.isDeleted = false → account.owner = user →
        (Operation.closeAccount id).Yields base fresh defaultCurrency user tables (.error e) .empty := by
    intro account tables e found live owned
    refine .notClosed fun refusal refused => ?_
    rw [found, admission_of_owner live owned] at refused
    cases refused
  apply admission_assures
  · rintro e found _ refused tables ⟨_, same⟩
    refine .notClosed fun refusal refused' => ?_
    rw [same, refused] at refused'
    cases refused'
    rfl
  · intro account found _ here live owned
    apply Work.Assures.clock
    intro now
    apply Work.Assures.ofExcept
    · rintro e _ tables ⟨_, same⟩
      exact admitted same live owned
    · intro closed mayClose
      obtain ⟨_, holdsNothing⟩ := Account.close_eq_ok mayClose
      rintro answer _ after ⟨found', now', ⟨_, here'⟩, rfl, writes⟩ tables ⟨⟨_, same⟩, _⟩
      cases answer with
      | error e =>
          obtain ⟨_, rfl⟩ := writes.of_error
          exact admitted same live owned
      | ok _ =>
          obtain ⟨row, allowed, rfl⟩ := writes.of_ok
          obtain ⟨current, found'', _, rfl⟩ := Store.closedRow_eq_ok allowed
          rw [Tables.visibleAccount?_empty, here'] at found''
          cases found''
          have key := Tables.id_of_account? same
          subst key
          exact .closes same live owned holdsNothing

/-- What becomes of an amount on its way into an account in some currency. -/
private theorem convertWork_assures {goal : Goal β} {amount : Money} {target : Currency}
    {f : Money × Option ConversionInfo → Work Empty β} (refuses : ∀ e, goal (.error e) expects staged)
    (goesOn : ∀ applied conversion, Converts amount target conversion →
      (f (applied, conversion)).Assures fresh goal expects staged) :
    (convertWork amount target >>= f).Assures fresh goal expects staged := by
  apply Work.Assures.bind
  unfold convertWork
  split
  · rename_i same
    exact goesOn amount none same
  · rename_i different
    apply Work.Assures.bind
    intro answer
    cases answer with
    | error e => exact refuses _
    | ok quote =>
        change Work.Assures _ _ (if _ then _ else _) expects staged
        split
        · apply Work.Assures.ofExcept
          · intro e _
            exact refuses e
          · intro info recorded
            obtain ⟨positive, rfl⟩ := ConversionInfo.record_eq_ok recorded
            exact goesOn _ _ ⟨different, rfl, positive⟩
        · exact refuses _

/-- An account that was moved and written, and the entry that was recorded for it. -/
private theorem movement_of_eq_ok {request : MovementRequest} {direction : Direction}
    {account moved row : Account} {amount applied signed : Money} {now : Timestamp} {id : TransactionId}
    {conversion : Option ConversionInfo} {entry : LedgerEntry} (live : account.isDeleted = false)
    (owned : account.owner = user) (resolved : request.amount.resolve account.currency = .ok amount)
    (converts : Converts amount account.currency conversion)
    (movement : applyMovement direction account applied now = .ok (moved, signed))
    (updated : Store.updatedRow moved (some account) = .ok row)
    (recorded : LedgerEntry.record id moved user signed request.source conversion
      (request.target.map (·.masked)) now = .ok entry) : Movement user request account row entry := by
  obtain ⟨balance, rfl, sum, currency, signedCurrency, enough⟩ := applyMovement_eq_ok movement
  obtain ⟨_, something, rfl⟩ := LedgerEntry.record_eq_ok recorded
  obtain ⟨current, same, _, _, _, rfl⟩ := Store.updatedRow_eq_ok updated
  cases same
  have open' : account.deletedAt = none := by simpa [Account.isDeleted] using live
  exact
    { id := rfl
      live := rfl
      entryAccount := rfl
      entryUser := owned.symm
      owner := rfl
      entryBalance := rfl
      sum := sum
      currency := currency
      entryCurrency := signedCurrency
      enough := enough
      wasLive := live
      owned := owned
      moved_eq := by simp [Account.withBalance, open']
      something := something
      source := rfl
      target := rfl
      conversion := ⟨amount, resolved, converts⟩ }

/-- Funds are moved as requested, and the movement is recorded. -/
private theorem moveWork_assures (known : ∀ tables, expects tables → base tables) (user : UserId)
    (direction : Direction) (request : MovementRequest) :
    (moveWork user direction request : Work Empty LedgerEntry).Assures fresh
      (fun result => Settles (fun result committed staged =>
        (Operation.move direction request).Yields base fresh defaultCurrency user committed result staged)
          (Answer.entry <$> result)) expects .empty := by
  have admitted : ∀ {account : Account} {tables staged : Tables} {e : LedgerError},
      tables.account? request.account = some account → account.isDeleted = false →
        account.owner = user → (Operation.move direction request).Yields base fresh defaultCurrency user
          tables (.error e) staged := by
    intro account tables staged e found live owned
    refine .notMoved fun refusal refused => ?_
    rw [found, admission_of_owner live owned] at refused
    cases refused
  apply admission_assures
  · rintro e found _ refused tables ⟨_, same⟩
    refine .notMoved fun refusal refused' => ?_
    rw [same, refused] at refused'
    cases refused'
    rfl
  · intro account found _ here live owned
    have key := Tables.id_of_account? here
    apply Work.Assures.ofExcept
    · rintro e _ tables ⟨_, same⟩
      exact admitted same live owned
    intro amount resolved
    apply convertWork_assures
    · rintro e tables ⟨_, same⟩
      exact admitted same live owned
    intro applied conversion converts
    apply Work.Assures.clock
    intro now
    apply Work.Assures.ofExcept
    · rintro e _ tables ⟨_, same⟩
      exact admitted same live owned
    rintro ⟨moved, signed⟩ movement
    apply Work.Assures.ask
    · rintro e _ after ⟨_, _, rfl, _⟩ tables ⟨⟨_, same⟩, _⟩
      exact admitted same live owned
    rintro _ _ after ⟨found', ⟨_, here'⟩, rfl, writes⟩
    obtain ⟨row, updated, rfl⟩ := writes.of_ok
    apply Work.Assures.freshId
    intro id _
    apply Work.Assures.ofExcept
    · rintro e _ tables ⟨⟨_, same⟩, _⟩
      exact admitted same live owned
    intro entry recorded
    apply Work.Assures.ask
    · rintro e _ after ⟨rfl, _⟩ tables ⟨⟨_, same⟩, _⟩
      exact admitted same live owned
    rintro _ _ after ⟨rfl, refused | ⟨_, rfl, seen, ⟨⟨expected, _⟩, _⟩, unused⟩⟩ tables ⟨⟨_, same⟩, _⟩
    · obtain ⟨e, refused, _⟩ := refused
      cases refused
    · have movedId : moved.id = request.account := by
        obtain ⟨balance, rfl, _⟩ := applyMovement_eq_ok movement
        exact key
      rw [Tables.visibleAccount?_empty, movedId, here'] at updated
      obtain ⟨_, absent⟩ := Option.or_eq_none_iff.mp (Store.requireFresh_eq_ok unused)
      exact .moves same (movement_of_eq_ok live owned resolved converts movement updated recorded)
        ⟨seen, known seen expected, absent⟩

/-- An account is looked at. -/
private theorem accountWork_assures {f : Account → Answer} (user : UserId) (id : AccountId)
    {post : Except LedgerError Answer → Tables → Tables → Prop}
    (yields : ∀ seen, expects seen → ∀ tables,
      post (f <$> (requireLive id (seen.account? id) >>= requireOwned id user)) tables .empty) :
    (accountWork user id : Work Empty Account).Assures fresh (fun result => Settles post (f <$> result))
      expects .empty := by
  apply Work.Assures.ask
  · rintro e _ _ ⟨seen, expected, refused, rfl, rfl⟩ tables _
    have answer := yields seen expected tables
    rwa [← Tables.visibleAccount?_empty seen, ← refused] at answer
  · rintro account _ _ ⟨seen, expected, allowed, rfl, rfl⟩ tables _
    have answer := yields seen expected tables
    rwa [← Tables.visibleAccount?_empty seen, ← allowed] at answer

/-- A history is looked at. -/
private theorem historyWork_assures (known : ∀ tables, expects tables → base tables) (user : UserId)
    (id : AccountId) :
    (historyWork user id : Work Empty (List LedgerEntry)).Assures fresh
      (fun result => Settles (fun result committed staged =>
        (Operation.history id).Yields base fresh defaultCurrency user committed result staged)
          (Answer.history <$> result)) expects .empty := by
  apply Work.Assures.ask
  · rintro e _ _ ⟨seen, expected, refused, rfl, rfl⟩ tables _
    refine .history seen seen (known seen expected) (known seen expected) ?_
    rw [← Tables.visibleAccount?_empty seen, ← refused]
    rfl
  · rintro account _ _ ⟨seen, expected, allowed, rfl, rfl⟩
    rw [Tables.visibleAccount?_empty] at allowed
    apply Work.Assures.ofExcept
    · rintro e foreign tables _
      refine .history seen seen (known seen expected) (known seen expected) ?_
      simp only [← allowed, bind, Except.bind, foreign]
      rfl
    · rintro owned allowed' answer _ _ ⟨later, expected', rfl, rfl, rfl⟩ tables _
      refine .history seen later (known seen expected) (known later expected') ?_
      simp only [← allowed, bind, Except.bind, allowed', Tables.visibleHistory_empty]
      rfl

/-- An entry is looked at. -/
private theorem transactionWork_assures (known : ∀ tables, expects tables → base tables) (user : UserId)
    (id : TransactionId) :
    (transactionWork user id : Work Empty LedgerEntry).Assures fresh
      (fun result => Settles (fun result committed staged =>
        (Operation.transaction id).Yields base fresh defaultCurrency user committed result staged)
          (Answer.entry <$> result)) expects .empty := by
  apply Work.Assures.ask
  · rintro e _ _ ⟨seen, expected, refused, rfl, rfl⟩ tables _
    refine .transaction seen (known seen expected) ?_
    rw [← Tables.visibleEntry?_empty seen, ← refused]
    rfl
  · rintro entry _ _ ⟨seen, expected, allowed, rfl, rfl⟩
    rw [Tables.visibleEntry?_empty] at allowed
    split
    · rename_i own
      intro tables _
      refine .transaction seen (known seen expected) ?_
      simp only [← allowed, bind, Except.bind, if_pos own]
    · rename_i other
      intro tables _
      refine .transaction seen (known seen expected) ?_
      simp only [← allowed, bind, Except.bind, if_neg other]

/-- Whatever an operation is, and whatever others do meanwhile, only this can come of it. -/
theorem Operation.work_assures (operation : Operation) (defaultCurrency : Currency) (user : UserId)
    (known : ∀ tables, expects tables → base tables) :
    (operation.work defaultCurrency user : Work Empty Answer).Assures fresh
      (Settles fun result committed staged =>
        operation.Yields base fresh defaultCurrency user committed result staged) expects .empty := by
  cases operation with
  | openAccount currency => exact .map (openWork_assures user defaultCurrency currency)
  | move direction request => exact .map (moveWork_assures known user direction request)
  | closeAccount id => exact .map (closeWork_assures user id)
  | account id =>
      exact .map (accountWork_assures user id fun seen expected _ =>
        .account seen (known seen expected) rfl)
  | balance id =>
      exact .map (accountWork_assures user id fun seen expected _ =>
        .balance seen (known seen expected) rfl)
  | history id => exact .map (historyWork_assures known user id)
  | transaction id => exact .map (transactionWork_assures known user id)

end Works

/-! ### What is shown -/

namespace Operation.Yields

variable {base : Tables → Prop} {fresh : Uuid → Prop} {defaultCurrency : Currency} {user : UserId}
  {committed staged : Tables} {result : Except LedgerError Answer}

/-- Whoever owns an account at all times is shown the history as it was at some time. -/
theorem history_of_owned {id : AccountId}
    (yields : (Operation.history id).Yields base fresh defaultCurrency user committed result staged)
    (owned : ∀ seen, base seen → ∃ account, seen.account? id = some account ∧ account.owner = user) :
    ∃ shown, base shown ∧ result = .ok (.history (shown.history user id)) := by
  cases yields with
  | history seen later known known' eq =>
      obtain ⟨account, found, own⟩ := owned seen known
      refine ⟨later, known', ?_⟩
      rw [eq, found]
      simp [requireAccount, requireOwned, Account.isOwnedBy, own, bind, Except.bind, Functor.map, Except.map]

/-- Whoever an entry was recorded for is shown the entry if it is there at all times. -/
theorem transaction_of_own {entry : LedgerEntry}
    (yields : (Operation.transaction entry.id).Yields base fresh defaultCurrency entry.user committed result
      staged)
    (known : ∀ seen, base seen → seen.entry? entry.id = some entry) : result = .ok (.entry entry) := by
  cases yields with
  | transaction seen based eq =>
      rw [eq, known seen based]
      simp [requireEntry, bind, Except.bind, Functor.map, Except.map]

end Operation.Yields

/-! ### What is written -/

/-- The entries of an account, in the order in which they were committed. -/
def entriesOf (tables : Tables) (id : AccountId) : List LedgerEntry :=
  tables.entries.filter (·.account == id)

theorem entriesOf_extend (tables written : Tables) (id : AccountId) :
    entriesOf (tables.extend written) id = entriesOf tables id ++ entriesOf written id := by
  simp [entriesOf]

/-- When no entry is written, every account has the same entries. -/
theorem entriesOf_extend_putAccount (tables : Tables) (account : Account) (id : AccountId) :
    entriesOf (tables.extend (Tables.empty.putAccount account)) id = entriesOf tables id := by
  rw [entriesOf_extend]
  exact List.append_nil _

/-- An account has no more entries than before if all that are written are for another. -/
theorem entriesOf_extend_of_ne {tables written : Tables} {id other : AccountId}
    (entries : ∀ entry ∈ written.entries, entry.account = other) (different : other ≠ id) :
    entriesOf (tables.extend written) id = entriesOf tables id := by
  have nothing : entriesOf written id = [] := by
    rw [entriesOf, List.filter_eq_nil_iff]
    intro entry member
    simpa [entries entry member] using different
  rw [entriesOf_extend, nothing, List.append_nil]

/-- An account that does not exist has no entries, as long as all entries are those of accounts. -/
theorem entriesOf_eq_nil {tables : Tables} {id : AccountId}
    (known : ∀ entry ∈ tables.entries, ∃ account, tables.account? entry.account = some account)
    (absent : tables.account? id = none) : entriesOf tables id = [] := by
  rw [entriesOf, List.filter_eq_nil_iff]
  intro entry member same
  obtain ⟨account, found⟩ := known entry member
  rw [beq_iff_eq] at same
  rw [same, absent] at found
  cases found

def Operation.account? : Operation → Option AccountId
  | move _ request => some request.account
  | account id | balance id | history id | closeAccount id => some id
  | openAccount _ | transaction _ => none

namespace Operation.Yields

variable {base : Tables → Prop} {fresh : Uuid → Prop} {defaultCurrency : Currency} {user : UserId}
  {committed staged : Tables} {operation : Operation} {answer : Answer}

/-- No row is staged twice. -/
theorem distinctRows
    (yields : operation.Yields base fresh defaultCurrency user committed (.ok answer) staged) :
    staged.DistinctRows := by
  cases yields with
  | opens | closes => exact .putAccount .empty _
  | moves => exact .addEntry (.putAccount .empty _) _
  | account | balance | history | transaction => exact .empty

/-- Whoever writes the row of an account opens it, or has named it and found it open and their own. -/
theorem of_row
    (yields : operation.Yields base fresh defaultCurrency user committed (.ok answer) staged)
    {id : AccountId} {row : Account} (written : staged.account? id = some row) :
    committed.account? id = none ∧ (∃ currency, operation = .openAccount currency) ∨
      ∃ account, committed.account? id = some account ∧ account.isDeleted = false ∧
        account.owner = user ∧ operation.account? = some id := by
  cases yields with
  | opens _ absent =>
      rw [Tables.account?_putAccount] at written
      split at written
      · rename_i same
        subst same
        exact .inl ⟨absent, _, rfl⟩
      · cases written
  | moves found movement =>
      rw [Tables.account?_addEntry, Tables.account?_putAccount] at written
      split at written
      · rename_i same
        rw [movement.id, Tables.id_of_account? found] at same
        subst same
        exact .inr ⟨_, found, movement.wasLive, movement.owned, rfl⟩
      · cases written
  | closes found live owned =>
      rw [Tables.account?_putAccount] at written
      split at written
      · rename_i same
        have key := Tables.id_of_account? found
        rw [closedAt, key] at same
        subst same
        exact .inr ⟨_, found, live, owned, rfl⟩
      · cases written
  | account | balance | history | transaction => cases written

/-- Whoever records an entry has named its account and found it open and their own, and records it for
themselves. -/
theorem of_entry
    (yields : operation.Yields base fresh defaultCurrency user committed (.ok answer) staged)
    {entry : LedgerEntry} (recorded : entry ∈ staged.entries) :
    entry.user = user ∧ operation.account? = some entry.account ∧
      ∃ account, committed.account? entry.account = some account ∧ account.isDeleted = false ∧
        account.owner = user := by
  cases yields with
  | moves found movement =>
      rw [Tables.entries_addEntry, Tables.entries_putAccount, List.mem_append,
        List.mem_singleton] at recorded
      rcases recorded with old | rfl
      · cases old
      · have same := movement.entryAccount.trans (Tables.id_of_account? found)
        rw [same]
        exact ⟨movement.entryUser.trans movement.owned, rfl, _, found, movement.wasLive, movement.owned⟩
  | opens | closes | account | balance | history | transaction => cases recorded

/-- An account stays as it is, and so do its entries, unless the operation opens it, or names it and finds it
open and its user's own. -/
theorem spares
    (yields : operation.Yields base fresh defaultCurrency user committed (.ok answer) staged)
    {id : AccountId}
    (unopened : committed.account? id = none → ∀ currency, operation ≠ .openAccount currency)
    (spared : ∀ account, committed.account? id = some account → account.isDeleted = false →
      account.owner = user → operation.account? ≠ some id) :
    (committed.extend staged).account? id = committed.account? id ∧
      entriesOf (committed.extend staged) id = entriesOf committed id := by
  constructor
  · apply Tables.account?_extend_of_none yields.distinctRows
    rw [Option.eq_none_iff_forall_ne_some]
    intro row written
    rcases yields.of_row written with ⟨absent, currency, opens⟩ | ⟨account, found, live, owned, names⟩
    · exact unopened absent currency opens
    · exact spared account found live owned names
  · have nothing : entriesOf staged id = [] := by
      rw [entriesOf, List.filter_eq_nil_iff]
      intro entry recorded same
      obtain ⟨_, names, account, found, live, owned⟩ := yields.of_entry recorded
      rw [beq_iff_eq] at same
      subst same
      exact spared account found live owned names
    rw [entriesOf_extend, nothing, List.append_nil]

end Operation.Yields

end Passbook.Service

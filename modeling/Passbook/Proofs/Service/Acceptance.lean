import Passbook.Proofs.Account.Calls
import Passbook.Proofs.Service.Discipline
import Passbook.Proofs.Session.Succession
/-!
# Movements that are accepted

A movement is accepted when the account has been found and locked, the amount has been made out in its currency, and
the credit or debit has succeeded.  Up to there much can be refused, and nothing is staged; from there on the account
is written and the movement recorded.  An acceptance rests on the row of the account alone, and as long as that row is
what it was nothing that remains to be done can fail but by an injected fault.
-/

namespace Passbook.Session

open Store (Tables)

variable {ν α : Type}

/-! ### Tasks that stage nothing -/

/-- A task looks at no row but one and stages nothing, and before it comes to a value it asks for the time, which is
the last that it does. -/
def Task.Tentative (id : AccountId) : Task ν α → Prop
  | .done (.ok _) => False
  | .done (.error _) | .panic _ => True
  | .lockRow _ next => next.Tentative id
  | .readAccount other next => other = id ∧ ∀ row, (next row).Tentative id
  | .now next => ∀ time, ∃ result, next time = .done result
  | .newId next => ∀ new, (next new).Tentative id
  | .convert _ _ next => ∀ answer, (next answer).Tentative id
  | .sleep _ next => next.Tentative id
  | .note _ next => next.Tentative id
  | .readEntry _ _ | .readHistory _ _ _ | .takeInsertFault _ | .putAccount _ _ | .addEntry _ _ => False

/-- The row of an account and nothing else. -/
def Footprint.row (id : AccountId) : Footprint := ⟨(· = id), fun _ => False, False⟩

variable {committed staged : Tables} {seen : Footprint} {readings : List Reading} {id : AccountId}

/-- A tentative task is led by that row alone and stages nothing, and it has been told the time just if it has come to
a result. -/
theorem Task.Tentative.leadsTo {first task : Task ν α} (tentative : first.Tentative id)
    (led : first.LeadsTo committed seen readings task staged) :
    first.LeadsTo committed (.row id) readings task staged ∧ staged = .empty ∧
      (task.Tentative id ∧ (∀ time, .now time ∉ readings) ∨
        (∃ time, .now time ∈ readings) ∧ ∃ result, task = .done result) := by
  induction led with
  | start => exact ⟨.start, rfl, .inl ⟨tentative, fun _ => List.not_mem_nil⟩⟩
  | lock _ inductionHypothesis =>
      obtain ⟨led, nothing, ⟨still, untold⟩ | ⟨_, result, done⟩⟩ := inductionHypothesis
      · exact ⟨led.lock, nothing, .inl ⟨still, untold⟩⟩
      · cases done
  | @access readings learned task next staged written _ _ access inductionHypothesis =>
      obtain ⟨led, nothing, ⟨still, untold⟩ | ⟨_, result, rfl⟩⟩ := inductionHypothesis
      · cases access with
        | readAccount other next =>
            obtain ⟨rfl, still⟩ := still
            rw [List.append_nil]
            exact ⟨by simpa using led.access rfl (.readAccount other next staged), nothing, .inl ⟨still _, untold⟩⟩
        | now next _ time =>
            refine ⟨led.access trivial (.now next staged time), nothing, .inr ⟨⟨time, ?_⟩, still time⟩⟩
            exact List.mem_append_right _ (List.mem_singleton.mpr rfl)
        | newId next _ new =>
            exact ⟨led.access trivial (.newId next staged new), nothing, .inl ⟨still new, by simpa using untold⟩⟩
        | convert amount target next _ answer =>
            exact ⟨led.access trivial (.convert amount target next staged answer), nothing,
              .inl ⟨still answer, by simpa using untold⟩⟩
        | sleep millis next =>
            rw [List.append_nil]
            exact ⟨by simpa using led.access trivial (.sleep millis _ staged), nothing, .inl ⟨still, untold⟩⟩
        | note entry next =>
            rw [List.append_nil]
            exact ⟨by simpa using led.access trivial (.note entry _ staged), nothing, .inl ⟨still, untold⟩⟩
        | readEntry | readHistory | takeInsertFault | putAccount | addEntry => cases still
      · cases access

/-- Whoever begins by locking a row and looking at it has looked at it by the time he was told anything. -/
theorem Task.LeadsTo.rows_of_told {next : Option Account → Task ν α} {task : Task ν α}
    (led : (Task.lockRow id (.readAccount id next)).LeadsTo committed seen readings task staged)
    (told : readings ≠ []) : seen.rows id := by
  suffices untold : seen.rows id ∨
      readings = [] ∧ (task = .lockRow id (.readAccount id next) ∨ task = .readAccount id next) by
    exact untold.resolve_right fun untold => told untold.1
  clear told
  induction led with
  | start => exact .inr ⟨rfl, .inl rfl⟩
  | lock _ inductionHypothesis =>
      rcases inductionHypothesis with looked | ⟨quiet, before | before⟩
      · exact .inl looked
      · cases before
        exact .inr ⟨quiet, .inr rfl⟩
      · cases before
  | access _ within access inductionHypothesis =>
      rcases inductionHypothesis with looked | ⟨quiet, rfl | rfl⟩
      · exact .inl looked
      · cases access
      · exact .inl within

end Passbook.Session

namespace Passbook.Service

open Session (Work Reading Outcome Footprint)
open Store (Tables)

variable {ν : Type} {user : UserId} {direction : Direction} {request : MovementRequest} {tables : Tables}

/-! ### The two parts of a movement -/

/-- The account after an amount was credited or debited. -/
def Direction.change : Direction → Account → Money → Timestamp → Except LedgerError Account
  | credit => Account.credit
  | debit => Account.debit

/-- The amount of the entry: that of a debit has the other sign. -/
def Direction.signed : Direction → Money → Except LedgerError Money
  | credit, amount => .ok amount
  | debit, amount => amount.neg

/-- What a movement has come to when its credit or debit has succeeded. -/
structure Acceptance where
  /-- The amount in the account's currency. -/
  applied : Money
  conversion : Option ConversionInfo
  now : Timestamp
  /-- The account after the credit or debit. -/
  moved : Account

/-- The work of a movement up to its credit or debit. -/
def acceptWork (user : UserId) (direction : Direction) (request : MovementRequest) : Work ν Acceptance := do
  let account ← Work.ask (.accountForUpdate request.account)
  Work.ofExcept (account.ensureOwnedBy user)
  let amount ← Work.ofExcept (request.amount.resolve account.currency)
  let (applied, conversion) ← convertWork amount account.currency
  let now ← Work.clock
  let moved ← Work.ofExcept (direction.change account applied now)
  return ⟨applied, conversion, now, moved⟩

/-- The entry of a movement that was accepted. -/
def Acceptance.entry (acceptance : Acceptance) (user : UserId) (request : MovementRequest) (signed : Money)
    (id : Uuid) : Except LedgerError LedgerEntry :=
  LedgerEntry.record ⟨id⟩ acceptance.moved user signed request.source acceptance.conversion
    (request.target.map (·.masked)) acceptance.now

/-- The work of a movement behind its credit or debit. -/
def bookWork (user : UserId) (direction : Direction) (request : MovementRequest) (acceptance : Acceptance) :
    Work ν LedgerEntry := do
  let signed ← Work.ofExcept (direction.signed acceptance.applied)
  Work.ask (.updateAccount acceptance.moved)
  let id ← Work.freshId
  let entry ← Work.ofExcept (acceptance.entry user request signed id)
  Work.ask (.createEntry entry)
  return entry

theorem applyMovement_eq (direction : Direction) (account : Account) (amount : Money) (now : Timestamp) :
    applyMovement direction account amount now = do
      let moved ← direction.change account amount now
      return (moved, ← direction.signed amount) := by
  cases direction with
  | credit => rfl
  | debit => rfl

/-- The work of a movement has these two parts. -/
theorem moveWork_eq (user : UserId) (direction : Direction) (request : MovementRequest) :
    (moveWork user direction request : Work ν LedgerEntry) =
      acceptWork user direction request >>= bookWork user direction request := by
  unfold moveWork acceptWork
  simp only [Work.bind_assoc, applyMovement_eq]
  refine bind_congr fun account => bind_congr fun _ => bind_congr fun amount => bind_congr fun paid =>
    bind_congr fun now => ?_
  cases direction.change account paid.1 now with
  | error e => rfl
  | ok moved =>
      change Work.ofExcept (do return (moved, ← direction.signed paid.1)) >>= _ =
        Work.ofExcept (direction.signed paid.1) >>= _
      cases direction.signed paid.1 <;> rfl

/-! ### What an acceptance rests on -/

/-- What is left of the first part when a row has been found. -/
private theorem acceptWork_task (user : UserId) (direction : Direction) (request : MovementRequest) :
    (acceptWork user direction request : Work ν Acceptance).task =
      .lockRow request.account (.readAccount request.account fun row =>
        (Work.ofExcept (Store.requireLive request.account row) >>= fun account =>
          Work.ofExcept (account.ensureOwnedBy user) >>= fun _ =>
            Work.ofExcept (request.amount.resolve account.currency) >>= fun amount =>
              convertWork amount account.currency >>= fun paid =>
                Work.clock >>= fun now =>
                  Work.ofExcept (direction.change account paid.1 now) >>= fun moved =>
                    pure ⟨paid.1, paid.2, now, moved⟩).task) := rfl

private theorem task_of_ofExcept {α β : Type} {result : Except LedgerError α} (f : α → Work ν β)
    {post : Session.Task ν β → Prop} (refused : ∀ e, post (.done (.error e)))
    (goesOn : ∀ a, result = .ok a → post (f a).task) : post (Work.ofExcept result >>= f).task := by
  cases result with
  | error e => exact refused e
  | ok a => exact goesOn a rfl

/-- Up to its credit or debit a movement is tentative. -/
theorem acceptWork_tentative (user : UserId) (direction : Direction) (request : MovementRequest) :
    (acceptWork user direction request : Work ν Acceptance).task.Tentative request.account := by
  rw [acceptWork_task]
  refine ⟨rfl, fun row => ?_⟩
  refine task_of_ofExcept _ (fun _ => trivial) fun account _ => ?_
  refine task_of_ofExcept _ (fun _ => trivial) fun _ _ => ?_
  refine task_of_ofExcept _ (fun _ => trivial) fun amount _ => ?_
  have settles : ∀ (paid : Money × Option ConversionInfo) (now : Timestamp), ∃ result,
      (Work.ofExcept (direction.change account paid.1 now) >>= fun moved =>
        pure ⟨paid.1, paid.2, now, moved⟩ : Work ν Acceptance).task = .done result := by
    intro paid now
    cases direction.change account paid.1 now <;> exact ⟨_, rfl⟩
  rcases convertWork_cases amount account.currency with same | ⟨come, same⟩
  · rw [same]
    exact settles (amount, none)
  · rw [same]
    exact fun answer => task_of_ofExcept _ (fun _ => trivial) fun paid _ => settles paid

/-- An acceptance rests on tables: the account is there, open and the user's, and credited or debited it is what the
acceptance says. -/
def Acceptance.RestsOn (acceptance : Acceptance) (tables : Tables) (user : UserId) (direction : Direction)
    (request : MovementRequest) : Prop :=
  ∃ account, tables.account? request.account = some account ∧ account.isDeleted = false ∧ account.owner = user ∧
    direction.change account acceptance.applied acceptance.now = .ok acceptance.moved

private theorem execute_of_ofExcept {α β : Type} {result : Except LedgerError α} {f : α → Work ν β}
    {committed staged written : Tables} {readings : List Reading} {b : β}
    (executed : (Work.ofExcept result >>= f).task.execute committed staged readings =
      some (.completed b, written)) :
    ∃ a, result = .ok a ∧ (f a).task.execute committed staged readings = some (.completed b, written) := by
  cases result with
  | error e => cases readings <;> cases executed
  | ok a => exact ⟨a, rfl, executed⟩

private theorem execute_of_clock {β : Type} {f : Timestamp → Work ν β} {committed staged : Tables}
    {readings : List Reading} {done : Outcome β × Tables}
    (executed : (Work.clock >>= f).task.execute committed staged readings = some done) :
    ∃ now rest, (f now).task.execute committed staged rest = some done := by
  obtain ⟨now, rest, _, executed⟩ := Session.execute_now executed
  exact ⟨now, rest, executed⟩

/-- A movement that is accepted is accepted on what is in the tables. -/
theorem acceptWork_restsOn {acceptance : Acceptance} {readings : List Reading} {written : Tables}
    (executed : (acceptWork user direction request : Work ν Acceptance).task.execute tables .empty readings =
      some (.completed acceptance, written)) : acceptance.RestsOn tables user direction request := by
  rw [acceptWork_task] at executed
  simp only [Session.Task.execute] at executed
  obtain ⟨account, live, executed⟩ := execute_of_ofExcept executed
  obtain ⟨found, live⟩ := Store.requireLive_eq_ok live
  rw [Tables.visibleAccount?_empty] at found
  obtain ⟨_, owned, executed⟩ := execute_of_ofExcept executed
  obtain ⟨amount, _, executed⟩ := execute_of_ofExcept executed
  have ends : ∀ {paid : Money × Option ConversionInfo} {readings : List Reading},
      (Work.clock >>= fun now => Work.ofExcept (direction.change account paid.1 now) >>= fun moved =>
        pure ⟨paid.1, paid.2, now, moved⟩ : Work ν Acceptance).task.execute tables .empty readings =
          some (.completed acceptance, written) →
        direction.change account acceptance.applied acceptance.now = .ok acceptance.moved := by
    intro paid readings executed
    obtain ⟨now, rest, executed⟩ := execute_of_clock executed
    obtain ⟨moved, changed, executed⟩ := execute_of_ofExcept executed
    cases rest with
    | nil =>
        cases executed
        exact changed
    | cons => cases executed
  refine ⟨account, found, live, Account.ensureOwnedBy_eq_ok owned, ?_⟩
  rcases convertWork_cases amount account.currency with same | ⟨come, same⟩
  · rw [same] at executed
    exact ends executed
  · rw [same] at executed
    obtain ⟨answer, rest, rfl, executed⟩ := Session.execute_convert executed
    obtain ⟨paid, _, executed⟩ := execute_of_ofExcept executed
    exact ends executed

/-! ### What remains to be done -/

/-- Nothing that remains to be done of a movement can fail on some tables, if the identifiers that it is handed out are
such ones: its amount can be negated and entered with either sign, the row of its account can be written, and its entry
refers to an account that is there and has an identifier that no entry has. -/
structure Acceptance.Unfailing (acceptance : Acceptance) (tables : Tables) (user : UserId) (request : MovementRequest)
    (handedOut : Uuid → Prop) : Prop where
  negates : ∃ opposite, acceptance.applied.neg = .ok opposite
  enters : ∀ direction signed, Direction.signed direction acceptance.applied = .ok signed →
    ∀ id, ∃ entry, acceptance.entry user request signed id = .ok entry
  updates : ∃ row, ∀ staged, staged.accounts = [] →
    Store.updatedRow acceptance.moved (Tables.visibleAccount? tables staged acceptance.moved.id) = .ok row
  refers : ∀ signed id entry, acceptance.entry user request signed id = .ok entry →
    ∀ staged, Store.requireReference entry (Tables.visibleAccount? tables staged entry.account) = .ok ()
  unused : ∀ signed id entry, handedOut id → acceptance.entry user request signed id = .ok entry →
    ∀ staged, staged.entries = [] →
      Store.requireFresh entry (Tables.visibleEntry? tables staged entry.id) = .ok ()

/-- What a credit or debit says of the amount and of the account. -/
private theorem change_eq_ok {account moved : Account} {amount : Money} {now : Timestamp}
    (changed : direction.change account amount now = .ok moved) :
    0 < amount.amount ∧ amount.currency = account.currency ∧
      ∃ balance : Money, moved = account.withBalance balance now ∧ balance.currency = account.currency := by
  cases direction with
  | credit =>
      obtain ⟨positive, currency, balance, moved, _, currency'⟩ := Account.credit_eq_ok changed
      exact ⟨positive, currency, balance, moved, currency'⟩
  | debit =>
      obtain ⟨positive, currency, balance, moved, _, currency', _⟩ := Account.debit_eq_ok changed
      exact ⟨positive, currency, balance, moved, currency'⟩

/-- More than nothing can be negated, since there is room for as much below nothing as above. -/
theorem exists_neg {amount : Money} (positive : 0 < amount.amount) :
    ∃ opposite, amount.neg = .ok opposite := by
  have room : Money.least ≤ -amount.amount ∧ -amount.amount ≤ Money.greatest := by
    have bound := amount.le_greatest
    simp only [Money.least, Money.greatest] at bound ⊢
    omega
  exact ⟨_, Money.ofResult_of_inRange room.1 room.2⟩

/-- More or less than nothing can be entered, in the currency of the account. -/
theorem Acceptance.exists_entry {acceptance : Acceptance} {signed : Money} (id : Uuid)
    (currency : signed.currency = acceptance.moved.currency) (something : signed.amount ≠ 0) :
    ∃ entry, acceptance.entry user request signed id = .ok entry := by
  have moves : ¬signed.isZero = true := by simpa [Money.isZero] using something
  rw [entry, LedgerEntry.record, if_neg (not_not_intro currency), if_neg moves]
  exact ⟨_, rfl⟩

/-- A row that is not closed can be written with another balance in its currency. -/
theorem exists_updatedRow {account current : Account} (live : current.isDeleted = false)
    (currency : current.currency = account.currency) (owner : current.owner = account.owner) :
    ∃ row, Store.updatedRow account (some current) = .ok row := by
  have found : Store.requireLive account.id (some current) = .ok current := by
    rw [Store.requireLive, Option.filter_some, live]
    rfl
  have same : ¬(current.currency ≠ account.currency ∨ current.owner ≠ account.owner) := by
    rw [currency, owner]
    simp
  rw [Store.updatedRow, found]
  simp only [bind, Except.bind, if_neg same]
  exact ⟨_, rfl⟩

/-- As long as the account is there, open and its user's, nothing that remains to be done of a movement can fail. -/
theorem Acceptance.RestsOn.unfailing {acceptance : Acceptance} {handedOut : Uuid → Prop}
    (rests : acceptance.RestsOn tables user direction request)
    (unused : ∀ id, handedOut id → tables.entry? ⟨id⟩ = none) :
    acceptance.Unfailing tables user request handedOut := by
  obtain ⟨account, found, live, owned, changed⟩ := rests
  obtain ⟨positive, currency, balance, moved, currency'⟩ := change_eq_ok changed
  have key : account.id = request.account := Tables.id_of_account? found
  have here : tables.account? acceptance.moved.id = some account := by
    rw [moved, ← found, ← key]
    rfl
  have ofEntry : ∀ {signed id entry}, acceptance.entry user request signed id = .ok entry →
      entry.id = ⟨id⟩ ∧ entry.account = acceptance.moved.id := by
    intro signed id entry entered
    obtain ⟨_, _, rfl⟩ := LedgerEntry.record_eq_ok entered
    exact ⟨rfl, rfl⟩
  have same : acceptance.moved.currency = account.currency := by
    rw [moved]
    exact currency'
  refine ⟨exists_neg positive, ?_, ?_, ?_, ?_⟩
  · intro direction signed sign id
    cases direction with
    | credit =>
        cases sign
        exact exists_entry id (currency.trans same.symm) (by omega)
    | debit =>
        obtain ⟨opposite, currency''⟩ := Money.neg_eq_ok sign
        exact exists_entry id (currency''.trans (currency.trans same.symm)) (by omega)
  · obtain ⟨row, updated⟩ := exists_updatedRow live same.symm (by rw [moved]; rfl)
    refine ⟨row, fun staged nothing => ?_⟩
    rw [Tables.visibleAccount?, Tables.account?, nothing, here]
    exact updated
  · intro signed id entry entered staged
    rw [(ofEntry entered).2, Tables.visibleAccount?, here]
    cases staged.account? acceptance.moved.id <;> rfl
  · intro signed id entry mine entered staged nothing
    rw [(ofEntry entered).1, Tables.visibleEntry?, unused id mine, Tables.entry?, nothing]
    rfl

/-- The amount of the entry can be made out, whatever the direction. -/
theorem Acceptance.Unfailing.exists_signed {acceptance : Acceptance} {handedOut : Uuid → Prop}
    (unfailing : acceptance.Unfailing tables user request handedOut) (direction : Direction) :
    ∃ signed, direction.signed acceptance.applied = .ok signed := by
  cases direction with
  | credit => exact ⟨_, rfl⟩
  | debit => exact unfailing.negates

section Calls

variable {committed staged : Tables} {readings : List Reading} {done : Outcome α × Tables}
  {next : Except LedgerError Unit → Session.Task ν α}

/-- An account whose row can be written is written. -/
theorem execute_updateAccount {account row : Account}
    (updated : Store.updatedRow account (Tables.visibleAccount? committed staged account.id) = .ok row)
    (executed : (Session.perform (.updateAccount account) next).execute committed staged readings = some done) :
    (next (.ok ())).execute committed (staged.putAccount row) readings = some done := by
  simpa only [Session.perform, Session.Task.execute, updated, Session.perform.write] using executed

/-- An entry that may be added is added, unless it is hit by a fault. -/
theorem execute_createEntry {entry : LedgerEntry}
    (refers : Store.requireReference entry (Tables.visibleAccount? committed staged entry.account) = .ok ())
    (unused : Store.requireFresh entry (Tables.visibleEntry? committed staged entry.id) = .ok ())
    (executed : (Session.perform (.createEntry entry) next).execute committed staged readings = some done) :
    ∃ rest, readings = .insertFault true :: rest ∧
        (next (.error (Store.injected "transaction insert"))).execute committed staged rest = some done ∨
      readings = .insertFault false :: rest ∧
        (next (.ok ())).execute committed (staged.addEntry entry) rest = some done := by
  simp only [Session.perform] at executed
  obtain ⟨armed, rest, rfl, executed⟩ := Session.execute_takeInsertFault executed
  cases armed with
  | true => exact ⟨rest, .inl ⟨rfl, executed⟩⟩
  | false =>
      simp only [Bool.false_eq_true, if_false, Session.Task.execute, refers, unused] at executed
      exact ⟨rest, .inr ⟨rfl, executed⟩⟩

end Calls

/-- What remains to be done of a movement that cannot fail comes to an entry, unless it is hit by a fault. -/
theorem Acceptance.Unfailing.execute {acceptance : Acceptance} {handedOut : Uuid → Prop} {readings : List Reading}
    {outcome : Outcome Answer} {written : Tables}
    (unfailing : acceptance.Unfailing tables user request handedOut)
    (told : ∀ id, .newId id ∈ readings → handedOut id)
    (executed : (Answer.entry <$> bookWork user direction request acceptance : Work Empty Answer).task.execute
      tables .empty readings = some (outcome, written)) :
    (∃ entry, outcome = .completed (.entry entry)) ∨
      outcome = .failed (Store.injected "transaction insert") ∧ .insertFault true ∈ readings := by
  obtain ⟨signed, sign⟩ := unfailing.exists_signed direction
  obtain ⟨row, updated⟩ := unfailing.updates
  rw [bookWork, sign] at executed
  obtain ⟨id, rest, rfl, booked⟩ := Session.execute_newId (execute_updateAccount (updated .empty rfl) executed)
  have mine := told id List.mem_cons_self
  obtain ⟨entry, entered⟩ := unfailing.enters direction signed sign id
  change ((Work.ofExcept (acceptance.entry user request signed id) >>= _ : Work Empty LedgerEntry) >>= _).task.execute
    tables (Tables.empty.putAccount row) rest = _ at booked
  rw [entered] at booked
  obtain ⟨last, ⟨rfl, added⟩ | ⟨rfl, added⟩⟩ := execute_createEntry (unfailing.refers signed id entry entered _)
    (unfailing.unused signed id entry mine entered _ rfl) booked
  · cases last with
    | nil =>
        cases added
        exact .inr ⟨rfl, by simp⟩
    | cons => cases added
  · cases last with
    | nil =>
        cases added
        exact .inl ⟨entry, rfl⟩
    | cons => cases added

end Passbook.Service

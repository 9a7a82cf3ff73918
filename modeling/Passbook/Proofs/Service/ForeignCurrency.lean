import Passbook.Proofs.Service.OwnCurrency
/-!
# Amounts in another currency

A movement of an amount in another currency is the movement of what the amount is converted to, with a note of the
conversion in its entry: the two come to the same account and the same entry but for the note, or they both fail for
the same reason.  A converter that answers anything but more than nothing in the account's currency, at a rate greater
than zero, makes the movement fail, and nothing is changed.
-/

namespace Passbook

open Session (Surroundings Outcome Work)
open Store (Tables)

def LedgerEntry.noting (entry : LedgerEntry) (info : ConversionInfo) : LedgerEntry :=
  { entry with conversion := some info }

/-- A quote that a movement in a currency goes on with: more than nothing in that currency, at a rate greater than
zero. -/
structure Quote.Serves (quote : Quote) (currency : Currency) : Prop where
  positive : 0 < quote.converted.amount
  currency : quote.converted.currency = currency
  rate : 0 < quote.rate.toRat

namespace Service

variable {tables : Tables} {account : Account} {user : UserId} {transfer : Transfer} {direction : Direction}
  {surroundings : Surroundings} {defaultCurrency : Currency} {applied : Money} {info : ConversionInfo}

theorem succeeded_bind {α β : Type} (value : α) (next : α → Except LedgerError β) :
    (.ok value >>= next) = next value := rfl

theorem exists_of_succeeded_bind {α β : Type} {first : Except LedgerError α} {next : α → Except LedgerError β}
    {done : β} (succeeded : first >>= next = .ok done) : ∃ value, first = .ok value ∧ next value = .ok done := by
  cases first with
  | ok value => exact ⟨value, rfl, succeeded⟩
  | error e => cases succeeded

/-! ### What comes behind a conversion -/

/-- The work of a movement from when its amount is in the currency of the account. -/
def recordWork {ν : Type} (user : UserId) (transfer : Transfer) (account : Account)
    (paid : Money × Option ConversionInfo) : Work ν LedgerEntry := do
  let now ← Work.clock
  let (moved, signed) ← Work.ofExcept (applyMovement transfer.direction account paid.1 now)
  Work.ask (.updateAccount moved)
  let id ← Work.freshId
  let entry ← Work.ofExcept
    (LedgerEntry.record ⟨id⟩ moved user signed transfer.source paid.2 (transfer.target.map (·.masked)) now)
  Work.ask (.createEntry entry)
  return entry

/-- What that work comes to on committed tables: the row and the entry that are written. -/
def settle (tables : Tables) (user : UserId) (transfer : Transfer) (account : Account) (surroundings : Surroundings)
    (paid : Money × Option ConversionInfo) : Except LedgerError (Account × LedgerEntry) := do
  let (moved, signed) ← applyMovement transfer.direction account paid.1 surroundings.now
  let row ← Store.updatedRow moved (Tables.visibleAccount? tables .empty moved.id)
  let entry ← LedgerEntry.record ⟨surroundings.newId⟩ moved user signed transfer.source paid.2
    (transfer.target.map (·.masked)) surroundings.now
  Store.requireReference entry (Tables.visibleAccount? tables (Tables.empty.putAccount row) entry.account)
  Store.requireFresh entry (Tables.visibleEntry? tables (Tables.empty.putAccount row) entry.id)
  return (row, entry)

/-- The tables after a row and an entry were written, or after nothing was. -/
def settled (tables : Tables) : Except LedgerError (Account × LedgerEntry) → Outcome Answer × Tables
  | .error e => (.failed e, tables)
  | .ok (row, entry) => (.completed (.entry entry), (tables.putAccount row).addEntry entry)

/-! ### Work in surroundings that stay the same -/

/-- What work that comes to an entry comes to as an operation, from when it has staged something and was told so many
things: how it ends, and what it has staged by then. -/
def comesTo (tables : Tables) (surroundings : Surroundings) (staged : Tables) (told : ℕ)
    (work : Work Empty LedgerEntry) : Outcome Answer × Tables :=
  (Answer.entry <$> work).task.conduct tables (fun _ => surroundings) staged told

/-- Go on with what was found, or fail with what has been staged. -/
def orFailed {α : Type} (staged : Tables) (found : Except LedgerError α) (next : α → Outcome Answer × Tables) :
    Outcome Answer × Tables :=
  match found with
  | .error e => (.failed e, staged)
  | .ok a => next a

theorem orFailed_ok {α : Type} {staged : Tables} {a : α} {next : α → Outcome Answer × Tables} :
    orFailed staged (.ok a) next = next a := rfl

section Steps

variable {α : Type} {staged : Tables} {told : ℕ} {next : α → Work Empty LedgerEntry}

theorem comesTo_clock {next : Timestamp → Work Empty LedgerEntry} :
    comesTo tables surroundings staged told (Work.clock >>= next) =
      comesTo tables surroundings staged (told + 1) (next surroundings.now) := rfl

theorem comesTo_freshId {next : Uuid → Work Empty LedgerEntry} :
    comesTo tables surroundings staged told (Work.freshId >>= next) =
      comesTo tables surroundings staged (told + 1) (next surroundings.newId) := rfl

theorem comesTo_quote_bind {β : Type} {paid : Quote → Work Empty β} {next : β → Work Empty LedgerEntry} {amount : Money}
    {target : Currency} :
    comesTo tables surroundings staged told ((Work.quote amount target >>= paid) >>= next) =
      comesTo tables surroundings staged (told + 1)
        ((Work.ofExcept ((surroundings.convert amount target).mapError LedgerError.ofConversion) >>= paid) >>= next) :=
  rfl

theorem comesTo_ok {a : α} :
    comesTo tables surroundings staged told (Work.ofExcept (.ok a) >>= next) =
      comesTo tables surroundings staged told (next a) := rfl

theorem comesTo_updateAccount {next : Unit → Work Empty LedgerEntry} {moved : Account} :
    comesTo tables surroundings staged told (Work.ask (.updateAccount moved) >>= next) =
      orFailed staged (Store.updatedRow moved (Tables.visibleAccount? tables staged moved.id)) fun row =>
        comesTo tables surroundings (staged.putAccount row) told (next ()) := by
  change Session.Task.conduct _ _ (Session.perform.write _ _) staged told = _
  cases Store.updatedRow moved (Tables.visibleAccount? tables staged moved.id) <;> rfl

theorem comesTo_createEntry {next : Unit → Work Empty LedgerEntry} {entry : LedgerEntry} :
    comesTo tables surroundings staged told (Work.ask (.createEntry entry) >>= next) =
      orFailed staged (Store.requireReference entry (Tables.visibleAccount? tables staged entry.account)) fun _ =>
        orFailed staged (Store.requireFresh entry (Tables.visibleEntry? tables staged entry.id)) fun _ =>
          comesTo tables surroundings (staged.addEntry entry) (told + 1) (next ()) := by
  change Session.Task.conduct tables _ (Session.perform (.createEntry entry) _) staged told = _
  simp only [Session.perform, Session.Task.conduct, Bool.false_eq_true, if_false]
  cases Store.requireReference entry (Tables.visibleAccount? tables staged entry.account) with
  | error e => rfl
  | ok _ =>
      simp only [Session.Task.conduct]
      cases Store.requireFresh entry (Tables.visibleEntry? tables staged entry.id) <;> rfl

end Steps

/-- The committed tables after an outcome, beside it. -/
def ended (tables : Tables) (done : Outcome Answer × Tables) : Outcome Answer × Tables :=
  (done.1, published tables done)

theorem ended_recordWork (paid : Money × Option ConversionInfo) (told : ℕ) :
    ended tables (comesTo tables surroundings .empty told (recordWork user transfer account paid)) =
      settled tables (settle tables user transfer account surroundings paid) := by
  unfold recordWork settle
  rw [comesTo_clock]
  cases applyMovement transfer.direction account paid.1 surroundings.now with
  | error e => rfl
  | ok applied =>
      obtain ⟨moved, signed⟩ := applied
      rw [comesTo_ok]
      simp only [succeeded_bind]
      rw [comesTo_updateAccount]
      cases Store.updatedRow moved (Tables.visibleAccount? tables .empty moved.id) with
      | error e => rfl
      | ok row =>
          simp only [succeeded_bind]
          rw [orFailed_ok, comesTo_freshId]
          cases LedgerEntry.record ⟨surroundings.newId⟩ moved user signed transfer.source paid.2
              (transfer.target.map (·.masked)) surroundings.now with
          | error e => rfl
          | ok entry =>
              rw [comesTo_ok, comesTo_createEntry]
              simp only [succeeded_bind]
              cases Store.requireReference entry
                  (Tables.visibleAccount? tables (Tables.empty.putAccount row) entry.account) with
              | error e => rfl
              | ok _ =>
                  simp only [succeeded_bind]
                  cases Store.requireFresh entry
                      (Tables.visibleEntry? tables (Tables.empty.putAccount row) entry.id) with
                  | error e => rfl
                  | ok _ =>
                      show (_, tables.extend ((Tables.empty.putAccount row).addEntry entry)) = _
                      rw [Tables.extend_addEntry, Tables.extend_putAccount .empty, Tables.extend_empty]
                      rfl

/-! ### Conversions -/

/-- What an amount in another currency is converted to, with a note of it, if what the converter answers will do. -/
def convertedBy (surroundings : Surroundings) (stated : Money) (target : Currency) :
    Except LedgerError (Money × Option ConversionInfo) := do
  let quote ← (surroundings.convert stated target).mapError LedgerError.ofConversion
  if quote.converted.isPositive then
    return (quote.converted, some (← ConversionInfo.record stated quote.rate))
  else
    throw (convertsToNothing stated quote.converted)

section Conversion

variable {stated : Money} {quote : Quote} {staged : Tables} {told : ℕ}

theorem comesTo_convertWork (foreign : stated.currency ≠ account.currency)
    (next : Money × Option ConversionInfo → Work Empty LedgerEntry) :
    comesTo tables surroundings staged told (convertWork stated account.currency >>= next) =
      comesTo tables surroundings staged (told + 1)
        (Work.ofExcept (convertedBy surroundings stated account.currency) >>= next) := by
  unfold convertWork convertedBy
  rw [if_neg foreign]
  rw [comesTo_quote_bind]
  cases (surroundings.convert stated account.currency).mapError LedgerError.ofConversion with
  | error e => rfl
  | ok quote =>
      rw [Work.ofExcept_ok_bind, succeeded_bind]
      split
      · cases ConversionInfo.record stated quote.rate <;> rfl
      · rfl

/-- An amount is converted by a quote that serves. -/
theorem convertedBy_of_serves (answered : surroundings.convert stated account.currency = .ok quote)
    (serves : quote.Serves account.currency) :
    convertedBy surroundings stated account.currency = .ok (quote.converted, some ⟨stated, quote.rate⟩) := by
  have positive : quote.converted.isPositive = true := decide_eq_true serves.positive
  have recorded : ConversionInfo.record stated quote.rate = .ok ⟨stated, quote.rate⟩ :=
    if_pos (Decimal.isPositive_iff.mpr serves.rate)
  rw [convertedBy, answered]
  show (if _ then _ else _) = _
  rw [if_pos positive, recorded]
  rfl

/-- What an amount is converted to otherwise, if it is, is in another currency. -/
theorem currency_of_convertedBy {paid : Money × Option ConversionInfo}
    (converted : convertedBy surroundings stated account.currency = .ok paid)
    (fails : ∀ quote, surroundings.convert stated account.currency = .ok quote → ¬ quote.Serves account.currency) :
    paid.1.currency ≠ account.currency := by
  unfold convertedBy at converted
  cases answered : surroundings.convert stated account.currency with
  | error e =>
      rw [answered] at converted
      cases converted
  | ok quote =>
      rw [answered] at converted
      change (if _ then _ else _) = _ at converted
      split at converted
      · rename_i positive
        unfold ConversionInfo.record at converted
        split at converted
        · rename_i rate
          cases converted
          exact fun currency => fails quote answered
            ⟨of_decide_eq_true positive, currency, Decimal.isPositive_iff.mp rate⟩
        · cases converted
      · cases converted

end Conversion

/-! ### What the movement comes to -/

/-- Nothing is moved in another currency than that of the account. -/
theorem exists_applyMovement_error {amount : Money} (foreign : amount.currency ≠ account.currency) (now : Timestamp) :
    ∃ e, applyMovement direction account amount now = .error e := by
  have refused : ∃ e, account.ensureMovement amount = .error e := ⟨_, if_pos foreign⟩
  obtain ⟨e, refused⟩ := refused
  cases direction with
  | credit => exact ⟨e, by rw [applyMovement, Account.credit, refused]; rfl⟩
  | debit => exact ⟨e, by rw [applyMovement, Account.debit, refused]; rfl⟩

/-- What is written does not depend on the note of a conversion, which is in the entry. -/
theorem settle_noting :
    settle tables user transfer account surroundings (applied, some info) =
      (settle tables user transfer account surroundings (applied, none)).map
        fun done => (done.1, done.2.noting info) := by
  unfold settle
  cases applyMovement transfer.direction account applied surroundings.now with
  | error e => rfl
  | ok moved =>
      simp only [succeeded_bind]
      cases Store.updatedRow moved.1 (Tables.visibleAccount? tables .empty moved.1.id) with
      | error e => rfl
      | ok row =>
          simp only [succeeded_bind]
          unfold LedgerEntry.record
          split
          · rfl
          · split
            · rfl
            · simp only [succeeded_bind]
              unfold Store.requireReference Store.requireFresh
              split
              · simp only [succeeded_bind]
                split <;> rfl
              · rfl

/-- What two movements come to on the same tables, of which the first has its amount converted: either they write the
same row, and the same entry but for the note of the conversion, or both fail for one reason and leave the tables as
they were. -/
inductive Mirrors (tables : Tables) (info : ConversionInfo) :
    Outcome Answer × Tables → Outcome Answer × Tables → Prop where
  | moved (row : Account) (entry : LedgerEntry) (unconverted : entry.conversion = none) :
      Mirrors tables info
        (.completed (.entry (entry.noting info)), (tables.putAccount row).addEntry (entry.noting info))
        (.completed (.entry entry), (tables.putAccount row).addEntry entry)
  | failed (e : LedgerError) : Mirrors tables info (.failed e, tables) (.failed e, tables)

/-- Once the account is found, a movement of money over a channel that leads to its target is its conversion and what
comes behind that. -/
theorem attempt_exact (found : tables.account? transfer.account = some account) (live : account.isDeleted = false)
    (owned : account.owner = user) {money : Money} (positive : 0 < money.amount) :
    Operation.attempt defaultCurrency user tables (fun _ => surroundings)
        (.ok (transfer.of (.exact money))) =
      match transfer.source.ensureCompatible transfer.target with
      | .error e => (.failed e, tables)
      | .ok _ => ended tables (comesTo tables surroundings .empty 0
          (convertWork money account.currency >>= recordWork user transfer account)) := by
  have here : Store.requireLive transfer.account (tables.account? transfer.account) = .ok account := by
    rw [found]
    simp [Store.requireLive, Store.requireAccount, Option.filter_some, live]
  have allowed : account.ensureOwnedBy user = .ok () := by
    simp [Account.ensureOwnedBy, Account.isOwnedBy, owned]
  have checked : (transfer.of (.exact money)).check =
      transfer.source.ensureCompatible transfer.target := if_pos (decide_eq_true positive)
  simp only [Operation.attempt, Operation.conduct, checked]
  cases transfer.source.ensureCompatible transfer.target with
  | error e => rfl
  | ok _ =>
      simp only [Transfer.of, Operation.task, Operation.work, moveWork]
      rw [Operation.conduct_map_ask, here, Work.ofExcept_ok_bind, allowed, Work.ofExcept_ok_bind]
      rfl

/-- A movement of money in the currency of the account. -/
theorem attempt_own (found : tables.account? transfer.account = some account) (live : account.isDeleted = false)
    (owned : account.owner = user) {money : Money} (positive : 0 < money.amount)
    (own : money.currency = account.currency) :
    Operation.attempt defaultCurrency user tables (fun _ => surroundings)
        (.ok (transfer.of (.exact money))) =
      settled tables (transfer.source.ensureCompatible transfer.target >>= fun _ =>
        settle tables user transfer account surroundings (money, none)) := by
  rw [attempt_exact found live owned positive, convertWork, if_pos own]
  cases transfer.source.ensureCompatible transfer.target with
  | error e => rfl
  | ok _ => exact ended_recordWork (money, none) 0

/-- A movement of money in another currency. -/
theorem attempt_foreign (found : tables.account? transfer.account = some account) (live : account.isDeleted = false)
    (owned : account.owner = user) {money : Money} (positive : 0 < money.amount)
    (foreign : money.currency ≠ account.currency) :
    Operation.attempt defaultCurrency user tables (fun _ => surroundings)
        (.ok (transfer.of (.exact money))) =
      settled tables (transfer.source.ensureCompatible transfer.target >>= fun _ =>
        convertedBy surroundings money account.currency >>=
          settle tables user transfer account surroundings) := by
  rw [attempt_exact found live owned positive, comesTo_convertWork foreign]
  cases transfer.source.ensureCompatible transfer.target with
  | error e => rfl
  | ok _ =>
      cases convertedBy surroundings money account.currency with
      | error e => rfl
      | ok paid => exact ended_recordWork paid 1

theorem Mirrors.of_settled {settles : Except LedgerError (Account × LedgerEntry)}
    (unconverted : ∀ row entry, settles = .ok (row, entry) → entry.conversion = none) :
    Mirrors tables info (settled tables (settles.map fun done => (done.1, done.2.noting info)))
      (settled tables settles) := by
  cases settles with
  | error e => exact .failed e
  | ok done => exact .moved done.1 done.2 (unconverted _ _ rfl)

theorem Mirrors.exists_entry {done done' : Outcome Answer × Tables} (mirrors : Mirrors tables info done done')
    (completed : done'.1.value?.isSome = true) : ∃ entry, done'.1 = .completed (.entry entry) := by
  cases mirrors with
  | moved row entry => exact ⟨entry, rfl⟩
  | failed e => cases completed

/-- What is noted in the entry is what is told of a conversion. -/
theorem conversion_of_settle {paid : Money × Option ConversionInfo} {row : Account} {entry : LedgerEntry}
    (settles : settle tables user transfer account surroundings paid = .ok (row, entry)) :
    entry.conversion = paid.2 := by
  obtain ⟨moved, _, settles⟩ := exists_of_succeeded_bind settles
  obtain ⟨row, _, settles⟩ := exists_of_succeeded_bind settles
  obtain ⟨entry, recorded, settles⟩ := exists_of_succeeded_bind settles
  obtain ⟨_, _, settles⟩ := exists_of_succeeded_bind settles
  obtain ⟨_, _, settles⟩ := exists_of_succeeded_bind settles
  cases settles
  unfold LedgerEntry.record at recorded
  split at recorded
  · cases recorded
  · split at recorded <;> cases recorded
    rfl

namespace Transfer

variable {stated : Money} {quote : Quote}

/-- A movement whose amount is converted by a quote that serves mirrors the movement of what it is converted to. -/
theorem mirrors (found : tables.account? transfer.account = some account) (live : account.isDeleted = false)
    (owned : account.owner = user) (foreign : stated.currency ≠ account.currency) (positive : 0 < stated.amount)
    (answered : surroundings.convert stated account.currency = .ok quote) (serves : quote.Serves account.currency) :
    Mirrors tables ⟨stated, quote.rate⟩
      (Operation.attempt defaultCurrency user tables (fun _ => surroundings) (.ok (transfer.of (.exact stated))))
      (Operation.attempt defaultCurrency user tables (fun _ => surroundings)
        (.ok (transfer.of (.exact quote.converted)))) := by
  rw [attempt_foreign found live owned positive foreign, convertedBy_of_serves answered serves,
    attempt_own found live owned serves.positive serves.currency]
  cases transfer.source.ensureCompatible transfer.target with
  | error e => exact .failed e
  | ok _ =>
      simp only [succeeded_bind]
      rw [settle_noting]
      exact .of_settled fun _ _ => conversion_of_settle

/-- It fails, and nothing is changed, if the converter answers nothing that serves. -/
theorem fails (found : tables.account? transfer.account = some account) (live : account.isDeleted = false)
    (owned : account.owner = user) (foreign : stated.currency ≠ account.currency) (positive : 0 < stated.amount)
    (useless : ∀ quote, surroundings.convert stated account.currency = .ok quote → ¬ quote.Serves account.currency) :
    ∃ e, Operation.attempt defaultCurrency user tables (fun _ => surroundings) (.ok (transfer.of (.exact stated))) =
      (.failed e, tables) := by
  rw [attempt_foreign found live owned positive foreign]
  cases transfer.source.ensureCompatible transfer.target with
  | error e => exact ⟨e, rfl⟩
  | ok _ =>
      simp only [succeeded_bind]
      cases converted : convertedBy surroundings stated account.currency with
      | error e => exact ⟨e, rfl⟩
      | ok paid =>
          have foreign : paid.1.currency ≠ account.currency := currency_of_convertedBy converted useless
          obtain ⟨e, refused⟩ := exists_applyMovement_error foreign surroundings.now
          refine ⟨e, ?_⟩
          rw [succeeded_bind, settle, refused]
          rfl

end Transfer

namespace Chronicle

variable {chronicle : Chronicle} {context : RequestContext}

/-- Where nobody is after the account a movement is executed in one way, which is what it comes to by itself. -/
theorem Ready.executes_of (ready : chronicle.Ready) (untroubled : chronicle.Untroubled transfer.account)
    (inTime : context.isExpired chronicle.world.clock = false) (surroundings : Surroundings)
    (amount : RequestedAmount) :
    (∃ outcome after, chronicle.Executes context (transfer.of amount) (fun _ => surroundings) outcome after) ∧
      ∀ outcome after, chronicle.Executes context (transfer.of amount) (fun _ => surroundings) outcome after →
        (outcome, after.world.tables) = Operation.attempt chronicle.defaultCurrency context.user
          chronicle.world.tables (fun _ => surroundings) (.ok (transfer.of amount)) := by
  obtain ⟨⟨outcome, after, attempts⟩, only⟩ := ready.attempts untroubled inTime surroundings (.ok amount)
  refine ⟨?_, fun outcome after executes => only _ _ (.executed executes)⟩
  cases attempts with
  | executed executes => exact ⟨_, _, executes⟩

/-- In every state of the ledger a movement by the owner of a live account of more than nothing in another currency is
the movement of what the amount is converted to, stated in the currency of the account: both write the same row, and
the same entry but for the note of the conversion, or both fail for one reason and change nothing.  If the converter
answers anything else than more than nothing in the currency of the account, at a rate greater than zero, the movement
fails and nothing is changed.  So it is when the movements are executed in the same surroundings, as long as no fault
is armed, their time is not over, and nobody is after the account. -/
theorem converted_mirrors_own {defaultCurrency : Currency} {tables : Tables} {events : List Event}
    (ran : (Chronicle.start defaultCurrency tables).run? events = some chronicle) {transfer : Transfer}
    {account : Account} (found : chronicle.world.tables.account? transfer.account = some account)
    (live : account.isDeleted = false) {stated : Money} (foreign : stated.currency ≠ account.currency)
    (positive : 0 < stated.amount) (surroundings : Surroundings) :
    let attempt (money : Money) := Operation.attempt defaultCurrency account.owner chronicle.world.tables
      (fun _ => surroundings) (.ok (transfer.of (.exact money)))
    let executes (context : RequestContext) (money : Money) :=
      chronicle.Executes context (transfer.of (.exact money)) fun _ => surroundings
    let answer := surroundings.convert stated account.currency
    let calm (context : RequestContext) := context.user = account.owner ∧ chronicle.world.faults = .none ∧
      context.isExpired chronicle.world.clock = false ∧ chronicle.Untroubled transfer.account
    (∀ quote, answer = .ok quote → quote.Serves account.currency →
      Mirrors chronicle.world.tables ⟨stated, quote.rate⟩ (attempt stated) (attempt quote.converted) ∧
      ∀ context, calm context →
        (∃ outcome after, executes context stated outcome after) ∧
        (∃ outcome after, executes context quote.converted outcome after) ∧
        ∀ outcome after outcome' after', executes context stated outcome after →
          executes context quote.converted outcome' after' →
            Mirrors chronicle.world.tables ⟨stated, quote.rate⟩ (outcome, after.world.tables)
              (outcome', after'.world.tables)) ∧
    ((∀ quote, answer = .ok quote → ¬ quote.Serves account.currency) →
      (∃ e, attempt stated = (.failed e, chronicle.world.tables)) ∧
      ∀ context, calm context →
        (∃ outcome after, executes context stated outcome after) ∧
        ∀ outcome after, executes context stated outcome after →
          (∃ e, outcome = .failed e) ∧ after.world.tables = chronicle.world.tables) := by
  intro attempt executes answer calm
  cases defaultCurrency_run? ran
  have ends : ∀ context, calm context → ∀ money,
      (∃ outcome after, executes context money outcome after) ∧
        ∀ outcome after, executes context money outcome after → (outcome, after.world.tables) = attempt money := by
    rintro context ⟨owner, unarmed, inTime, untroubled⟩ money
    have ready : chronicle.Ready := ⟨(Regular.start _ tables).run? ran, unarmed⟩
    have executed := ready.executes_of untroubled inTime surroundings (.exact money)
    rwa [owner] at executed
  refine ⟨fun quote answered serves => ?_, fun useless => ?_⟩
  · have mirrors : Mirrors chronicle.world.tables ⟨stated, quote.rate⟩ (attempt stated) (attempt quote.converted) :=
      transfer.mirrors found live rfl foreign positive answered serves
    refine ⟨mirrors, fun context isCalm => ?_⟩
    obtain ⟨exists_, only⟩ := ends context isCalm stated
    obtain ⟨exists', only'⟩ := ends context isCalm quote.converted
    refine ⟨exists_, exists', fun outcome after outcome' after' executed executed' => ?_⟩
    rw [only _ _ executed, only' _ _ executed']
    exact mirrors
  · have fails : ∃ e, attempt stated = (.failed e, chronicle.world.tables) :=
      transfer.fails found live rfl foreign positive useless
    obtain ⟨e, fails⟩ := fails
    refine ⟨⟨e, fails⟩, fun context isCalm => ?_⟩
    obtain ⟨exists_, only⟩ := ends context isCalm stated
    refine ⟨exists_, fun outcome after executed => ?_⟩
    obtain ⟨outcome_eq, tables_eq⟩ := Prod.mk.inj ((only _ _ executed).trans fails)
    exact ⟨⟨e, outcome_eq⟩, tables_eq⟩

/-- An account is opened, in euros.  A deposit of ten dollars that are quoted at nine euros is a deposit of nine euros;
one that is quoted at a rate of nothing fails. -/
theorem converted_mirrors_own_dollars :
    let context := RequestContext.ofUser ⟨Uuid.ofNat 1⟩
    let dollars : Money := ⟨1000, .usd, by decide, by decide⟩
    let euros : Money := ⟨900, .eur, by decide, by decide⟩
    let rate : Decimal := ⟨false, 9, 1, by decide, by decide⟩
    let surroundings (number : Nat) (rate : Decimal) : Surroundings :=
      ⟨⟨0, 0⟩, Uuid.ofNat number, fun _ _ => .ok ⟨euros, rate⟩⟩
    let events : List Event :=
      .called context (.openAccount none) :: List.replicate 13 (.advanced 0 (surroundings 2 .zero))
    let transfer : Transfer := ⟨.credit, ⟨Uuid.ofNat 2⟩, .internal, none⟩
    ∃ chronicle outcome after entry after' e after'',
      (Chronicle.start .eur .empty).run? events = some chronicle ∧
      chronicle.Executes context (transfer.of (.exact dollars)) (fun _ => surroundings 3 rate) outcome after ∧
      chronicle.Executes context (transfer.of (.exact euros)) (fun _ => surroundings 3 rate) (.completed (.entry entry))
        after' ∧
      Mirrors chronicle.world.tables ⟨dollars, rate⟩ (outcome, after.world.tables)
        (.completed (.entry entry), after'.world.tables) ∧
      chronicle.Executes context (transfer.of (.exact dollars)) (fun _ => surroundings 3 .zero) (.failed e) after'' ∧
      after''.world.tables = chronicle.world.tables := by
  intro context dollars euros rate surroundings events transfer
  have ends : ((Chronicle.start .eur .empty).run? events).map (fun chronicle =>
      (chronicle.world.faults, chronicle.world.sessions.all (·.phase.ending.isSome),
        chronicle.world.tables.account? ⟨Uuid.ofNat 2⟩,
        (Operation.attempt .eur context.user chronicle.world.tables (fun _ => surroundings 3 rate)
          (.ok (transfer.of (.exact euros)))).1.value?.isSome)) =
      some (.none, true, some (.opened ⟨Uuid.ofNat 2⟩ context.user .eur ⟨0, 0⟩), true) := by
    decide
  obtain ⟨chronicle, ran, ends⟩ := Option.map_eq_some_iff.mp ends
  obtain ⟨unarmed, ends⟩ := Prod.mk.inj ends
  obtain ⟨ended, ends⟩ := Prod.mk.inj ends
  obtain ⟨opened, deposited⟩ := Prod.mk.inj ends
  have untroubled : chronicle.Untroubled transfer.account := by
    intro session member
    obtain ⟨outcome, ending⟩ := Option.isSome_iff_exists.mp (List.all_eq_true.mp ended session member)
    exact ((Regular.start .eur .empty).run? ran).not_isAfter_of_isOver member
      ⟨outcome, Session.Phase.ending_eq_some_iff.mp ending⟩ _
  have found : chronicle.world.tables.account? transfer.account =
      some (.opened ⟨Uuid.ofNat 2⟩ context.user .eur ⟨0, 0⟩) := opened
  have serves : Quote.Serves ⟨euros, rate⟩ .eur := ⟨by decide, rfl, Decimal.isPositive_iff.mp rfl⟩
  have useless : ∀ quote, (surroundings 3 .zero).convert dollars .eur = .ok quote → ¬ quote.Serves .eur := by
    rintro quote ⟨⟩ serves
    exact absurd (Decimal.isPositive_iff.mpr serves.rate) (by decide)
  have foreign : dollars.currency ≠ .eur := by decide
  obtain ⟨served, _⟩ := converted_mirrors_own ran found rfl foreign (by decide) (surroundings 3 rate)
  obtain ⟨mirrors, executed⟩ := served _ rfl serves
  obtain ⟨⟨outcome, after, executes⟩, ⟨outcome', after', executes'⟩, always⟩ :=
    executed context ⟨rfl, unarmed, rfl, untroubled⟩
  obtain ⟨_, refused⟩ := converted_mirrors_own ran found rfl foreign (by decide) (surroundings 3 .zero)
  obtain ⟨_, failed⟩ := refused useless
  obtain ⟨⟨outcome'', after'', executes''⟩, nothing⟩ := failed context ⟨rfl, unarmed, rfl, untroubled⟩
  obtain ⟨⟨e, rfl⟩, unchanged⟩ := nothing _ _ executes''
  have entered : ∃ entry, outcome' = .completed (.entry entry) := by
    have ready : chronicle.Ready := ⟨(Regular.start .eur .empty).run? ran, unarmed⟩
    have same := (ready.executes_of untroubled rfl (surroundings 3 rate) (.exact euros)).2 _ _ executes'
    have inEuros : chronicle.defaultCurrency = .eur := defaultCurrency_run? ran
    rw [inEuros] at same
    rw [← same] at deposited
    exact (always _ _ _ _ executes executes').exists_entry deposited
  obtain ⟨entry, rfl⟩ := entered
  exact ⟨chronicle, outcome, after, entry, after', e, after'', ran, executes, executes',
    always _ _ _ _ executes executes', executes'', unchanged⟩

end Chronicle

end Service

end Passbook

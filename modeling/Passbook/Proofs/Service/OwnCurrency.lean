import Passbook.Proofs.Money.Major
import Passbook.Proofs.Service.Commutation
/-!
# Amounts in the currency of the account

An amount for which no currency is named is one in the currency of the account.  It is made out later than one for
which that currency is named, when the account has been found; but what is refused at once in the one case is refused
then in the other, for the same kind of reason, and what is not refused is the same amount.
-/

namespace Passbook

open Session (Surroundings Outcome Work)
open Store (Tables)

/-- A channel that does not lead to the target is refused as not acceptable. -/
theorem MoneySource.kind_of_ensureCompatible_eq_error {source : MoneySource} {target : Option ExternalTarget}
    {e : LedgerError} (refused : source.ensureCompatible target = .error e) : e.kind = "validation_error" := by
  unfold ensureCompatible at refused
  split at refused
  · cases refused
  · split at refused
    · cases refused
      rfl
    · split at refused
      · cases refused
      · cases refused
        rfl

theorem Session.Work.ofExcept_ok_bind {ν α β : Type} (value : α) (next : α → Work ν β) :
    (ofExcept (.ok value) >>= next) = next value := rfl

namespace Service

variable {tables : Tables} {account : Account} {id : AccountId} {user : UserId} {request : MovementRequest}
  {around : Nat → Surroundings} {defaultCurrency : Currency}

namespace Operation

/-! ### Movements by themselves -/

/-- A movement that does not pass its check is refused as not acceptable. -/
theorem kind_of_check_eq_error {direction : Direction} {e : LedgerError}
    (refused : (move direction request).check = .error e) : e.kind = "validation_error" := by
  unfold check at refused
  dsimp only at refused
  split at refused
  · exact MoneySource.kind_of_ensureCompatible_eq_error refused
  · cases refused
    rfl

/-- Whoever locks the row of an account goes on with the account, if it is there and not closed. -/
theorem conduct_map_ask {β : Type} (f : β → Answer) (next : Account → Work Empty β) :
    (f <$> (Work.ask (.accountForUpdate id) >>= next)).task.conduct tables around .empty 0 =
      (f <$> (Work.ofExcept (Store.requireLive id (tables.account? id)) >>= next)).task.conduct tables around
        .empty 0 := rfl

/-- Once the account is found, a movement depends on how its amount is stated only by what that comes to in the
currency of the account. -/
theorem conduct_task_eq (direction : Direction) (found : tables.account? request.account = some account)
    (live : account.isDeleted = false) (owned : account.owner = user) :
    ((move direction request).task defaultCurrency user).conduct tables around .empty 0 =
      match request.amount.resolve account.currency with
      | .error e => (.failed e, .empty)
      | .ok money => ((move direction { request with amount := .exact money }).task defaultCurrency user).conduct
          tables around .empty 0 := by
  have here : Store.requireLive request.account (tables.account? request.account) = .ok account := by
    rw [found]
    simp [Store.requireLive, Store.requireAccount, Option.filter_some, live]
  have allowed : account.ensureOwnedBy user = .ok () := by
    simp [Account.ensureOwnedBy, Account.isOwnedBy, owned]
  simp only [task, work, moveWork]
  rw [conduct_map_ask, here, Work.ofExcept_ok_bind, allowed, Work.ofExcept_ok_bind]
  cases request.amount.resolve account.currency with
  | error e => rfl
  | ok money =>
      rw [Work.ofExcept_ok_bind]
      dsimp only
      rw [conduct_map_ask, here, Work.ofExcept_ok_bind, allowed, Work.ofExcept_ok_bind]
      rfl

/-- A movement comes to an entry, or it fails. -/
theorem conduct_move_cases (defaultCurrency : Currency) (user : UserId) (direction : Direction)
    (request : MovementRequest) (tables : Tables) (around : Nat → Surroundings) :
    (∃ entry, ((move direction request).conduct defaultCurrency user tables around).1 = .completed (.entry entry)) ∨
      ∃ e, ((move direction request).conduct defaultCurrency user tables around).1 = .failed e := by
  unfold conduct
  split
  · exact .inr ⟨_, rfl⟩
  · obtain ⟨result, ended, yields⟩ := exists_yields defaultCurrency user (move direction request) tables around
    rw [ended]
    generalize (((move direction request).task defaultCurrency user).conduct tables around .empty 0).2 = staged
      at yields
    cases yields with
    | moves => exact .inl ⟨_, rfl⟩
    | notMoved => exact .inr ⟨_, rfl⟩

end Operation

/-! ### Attempts that agree -/

/-- Carry out an operation by itself if it could be read: how that ends, and the committed tables afterwards. -/
def Operation.attempt (defaultCurrency : Currency) (user : UserId) (tables : Tables) (around : Nat → Surroundings) :
    Except LedgerError Operation → Outcome Answer × Tables
  | .error e => (.failed e, tables)
  | .ok operation =>
    let done := operation.conduct defaultCurrency user tables around
    (done.1, published tables done)

/-- Two attempts on the same tables agree: either both are answered by the same entry and leave the same tables, or
both fail for the same kind of reason and leave the tables as they were. -/
inductive Agrees (tables : Tables) : Outcome Answer × Tables → Outcome Answer × Tables → Prop where
  | moved (entry : LedgerEntry) (after : Tables) :
      Agrees tables (.completed (.entry entry), after) (.completed (.entry entry), after)
  | failed {e e' : LedgerError} (kind : e.kind = e'.kind) : Agrees tables (.failed e, tables) (.failed e', tables)

namespace Agrees

theorem of_move (direction : Direction) (request : MovementRequest) :
    Agrees tables (Operation.attempt defaultCurrency user tables around (.ok (.move direction request)))
      (Operation.attempt defaultCurrency user tables around (.ok (.move direction request))) := by
  have ends := Operation.conduct_move_cases defaultCurrency user direction request tables around
  simp only [Operation.attempt]
  generalize (Operation.move direction request).conduct defaultCurrency user tables around = done at ends ⊢
  obtain ⟨outcome, staged⟩ := done
  rcases ends with ⟨entry, rfl⟩ | ⟨e, rfl⟩
  · exact .moved entry _
  · exact .failed rfl

/-- A movement whose amount comes to money agrees with the movement of that money. -/
theorem of_resolved (direction : Direction) (found : tables.account? request.account = some account)
    (live : account.isDeleted = false) (owned : account.owner = user) {money : Money}
    (resolved : request.amount.resolve account.currency = .ok money)
    (positive : request.amount.isPositive = money.isPositive) :
    Agrees tables (Operation.attempt defaultCurrency user tables around (.ok (.move direction request)))
      (Operation.attempt defaultCurrency user tables around
        (.ok (.move direction { request with amount := .exact money }))) := by
  have checked : (Operation.move direction request).check =
      (Operation.move direction { request with amount := .exact money }).check := by
    simp only [Operation.check]
    rw [positive]
    rfl
  have same : (Operation.move direction request).conduct defaultCurrency user tables around =
      (Operation.move direction { request with amount := .exact money }).conduct defaultCurrency user tables
        around := by
    unfold Operation.conduct
    rw [checked, Operation.conduct_task_eq direction found live owned, resolved]
  have agrees : Agrees tables _
      (Operation.attempt defaultCurrency user tables around
        (.ok (.move direction { request with amount := .exact money }))) := .of_move _ _
  simp only [Operation.attempt] at agrees ⊢
  rwa [same]

/-- A movement whose amount does not come to money agrees with one whose amount cannot be read. -/
theorem of_unresolved (direction : Direction) (found : tables.account? request.account = some account)
    (live : account.isDeleted = false) (owned : account.owner = user) {reason : String}
    (unresolved : request.amount.resolve account.currency = .error (.invalid reason)) :
    Agrees tables (Operation.attempt defaultCurrency user tables around (.ok (.move direction request)))
      (Operation.attempt defaultCurrency user tables around (.error (.invalid reason))) := by
  cases checked : (Operation.move direction request).check with
  | error e =>
      -- The check may come first to something else that is wrong, but that is as little acceptable.
      simp only [Operation.attempt, Operation.conduct, checked]
      exact .failed (Operation.kind_of_check_eq_error checked)
  | ok _ =>
      simp only [Operation.attempt, Operation.conduct, checked,
        Operation.conduct_task_eq direction found live owned, unresolved]
      exact .failed rfl

end Agrees

/-! ### Amounts that are written -/

/-- What a movement is to be, but for its amount: to or from which account, and over which channel. -/
structure Transfer where
  direction : Direction
  account : AccountId
  source : MoneySource
  target : Option ExternalTarget

namespace Transfer

/-- The movement of an amount. -/
def of (transfer : Transfer) (amount : RequestedAmount) : Operation :=
  .move transfer.direction ⟨transfer.account, amount, transfer.source, transfer.target⟩

/-- The movement of an amount that is written in major units, of a currency that may be named. -/
def spelled (transfer : Transfer) (text : String) (named : Option Currency) : Except LedgerError Operation :=
  (RequestedAmount.parseMajor text named).map transfer.of

variable {transfer : Transfer}

/-- An amount that is written means the same to the owner of a live account whether its currency is named or not. -/
theorem agrees (found : tables.account? transfer.account = some account) (live : account.isDeleted = false)
    (owned : account.owner = user) (text : String) :
    Agrees tables (Operation.attempt defaultCurrency user tables around (transfer.spelled text none))
      (Operation.attempt defaultCurrency user tables around (transfer.spelled text (some account.currency))) := by
  unfold spelled RequestedAmount.parseMajor Money.parseMajor
  cases Money.parseDecimal text with
  | error e => exact .failed rfl
  | ok value =>
      show Agrees tables (Operation.attempt _ _ _ _ (.ok (transfer.of (.accountCurrency value))))
        (Operation.attempt _ _ _ _ ((RequestedAmount.exact <$> Money.ofMajor value account.currency).map transfer.of))
      rcases Money.ofMajor_cases value account.currency with ⟨money, accepted, _⟩ | ⟨⟨reason, refused⟩, _⟩
      · rw [accepted]
        exact .of_resolved _ found live owned accepted (Money.isPositive_of_ofMajor accepted).symm
      · rw [refused]
        exact .of_unresolved _ found live owned refused

end Transfer

/-! ### Executions -/

namespace Chronicle

variable {chronicle after after' : Chronicle} {context : RequestContext} {operation : Operation}
  {outcome outcome' : Outcome Answer} {surroundings : Surroundings} {event : Event} {number count count' : ℕ}

/-- What happens again and again until it cannot happen any more does not happen more often than that. -/
theorem count_le_of_ended (ran : chronicle.run? (List.replicate count event) = some after)
    (ended : after.after? event = none) (ran' : chronicle.run? (List.replicate count' event) = some after') :
    count' ≤ count := by
  by_contra more
  obtain ⟨further, rfl⟩ := Nat.exists_eq_add_of_lt (Nat.not_le.mp more)
  rw [Nat.add_assoc, List.replicate_add, run?_append, ran, Option.bind_some, List.replicate_succ, run?,
    List.foldlM_cons, ended] at ran'
  cases ran'

/-- In surroundings that stay the same an execution is one step again and again, until there is none. -/
theorem Executes.exists_count
    (executes : chronicle.Executes context operation (fun _ => surroundings) outcome after) :
    ∃ count, (chronicle.call context operation).run?
        (List.replicate count (.advanced chronicle.calls.length surroundings)) = some after ∧
      after.after? (.advanced chronicle.calls.length surroundings) = none := by
  obtain ⟨⟨arounds, own, ran⟩, session, known, ended⟩ := executes
  have same : arounds = List.replicate arounds.length surroundings :=
    List.eq_replicate_of_mem fun one member => (own one member).elim fun _ same => same
  rw [same, List.map_replicate] at ran
  refine ⟨_, ran, ?_⟩
  have stuck : after.world.advance chronicle.calls.length surroundings = none := by
    simp only [Session.World.advance, known, ended, Option.bind_eq_bind, Option.bind_some]
  exact Option.map_eq_none_iff.mpr stuck

/-- So there is one execution only. -/
theorem Executes.unique (executes : chronicle.Executes context operation (fun _ => surroundings) outcome after)
    (executes' : chronicle.Executes context operation (fun _ => surroundings) outcome' after') :
    outcome' = outcome ∧ after' = after := by
  obtain ⟨count, ran, stuck⟩ := executes.exists_count
  obtain ⟨count', ran', stuck'⟩ := executes'.exists_count
  have counts : count' = count :=
    (count_le_of_ended ran stuck ran').antisymm (count_le_of_ended ran' stuck' ran)
  rw [counts, ran] at ran'
  cases ran'
  obtain ⟨session, known, ended⟩ := executes.answered
  obtain ⟨session', known', ended'⟩ := executes'.answered
  cases known.symm.trans known'
  cases ended.symm.trans ended'
  exact ⟨rfl, rfl⟩

/-- An operation is executed if it could be read; if not, nothing happens. -/
inductive Attempts (chronicle : Chronicle) (context : RequestContext) (surroundings : Surroundings) :
    Except LedgerError Operation → Outcome Answer → Chronicle → Prop where
  | unread (e : LedgerError) : Attempts chronicle context surroundings (.error e) (.failed e) chronicle
  | executed {operation : Operation} {outcome : Outcome Answer} {after : Chronicle}
      (executes : chronicle.Executes context operation (fun _ => surroundings) outcome after) :
      Attempts chronicle context surroundings (.ok operation) outcome after

/-- Where nobody is after the account of a movement the attempt has one end, which is what the movement comes to by
itself. -/
theorem Ready.attempts {transfer : Transfer} (ready : chronicle.Ready)
    (untroubled : chronicle.Untroubled transfer.account) (inTime : context.isExpired chronicle.world.clock = false)
    (surroundings : Surroundings) (read : Except LedgerError RequestedAmount) :
    (∃ outcome after, chronicle.Attempts context surroundings (read.map transfer.of) outcome after) ∧
      ∀ outcome after, chronicle.Attempts context surroundings (read.map transfer.of) outcome after →
        (outcome, after.world.tables) = Operation.attempt chronicle.defaultCurrency context.user
          chronicle.world.tables (fun _ => surroundings) (read.map transfer.of) := by
  cases read with
  | error e =>
      refine ⟨⟨_, _, .unread e⟩, fun outcome after attempts => ?_⟩
      cases attempts
      rfl
  | ok amount =>
      have changes : (transfer.of amount).changes? = some transfer.account := rfl
      obtain ⟨after, executes, published, _⟩ :=
        ready.exists_executes changes untroubled inTime fun _ => surroundings
      refine ⟨⟨_, _, .executed executes⟩, fun outcome' after' attempts => ?_⟩
      cases attempts with
      | executed executes' =>
          obtain ⟨rfl, rfl⟩ := executes.unique executes'
          rw [published]
          rfl

/-- In every state of the ledger an amount that is written means the same to the owner of a live account whether its
currency is named or not: the two movements come to one entry and one state, or they both fail for the same kind of
reason, when the amount is read or later, and change nothing.  So it is when they are executed in the same
surroundings, as long as no fault is armed, their time is not over, and nobody is after the account. -/
theorem unnamed_currency_is_own {defaultCurrency : Currency} {tables : Tables} {events : List Event}
    (ran : (Chronicle.start defaultCurrency tables).run? events = some chronicle) {transfer : Transfer}
    {account : Account} (found : chronicle.world.tables.account? transfer.account = some account)
    (live : account.isDeleted = false) (text : String) (surroundings : Surroundings) :
    let unnamed := transfer.spelled text none
    let named := transfer.spelled text (some account.currency)
    let attempt := Operation.attempt defaultCurrency account.owner chronicle.world.tables fun _ => surroundings
    Agrees chronicle.world.tables (attempt unnamed) (attempt named) ∧
      ∀ context : RequestContext, context.user = account.owner → chronicle.world.faults = .none →
        context.isExpired chronicle.world.clock = false → chronicle.Untroubled transfer.account →
          (∃ outcome after, chronicle.Attempts context surroundings unnamed outcome after) ∧
          (∃ outcome after, chronicle.Attempts context surroundings named outcome after) ∧
          ∀ outcome after outcome' after', chronicle.Attempts context surroundings unnamed outcome after →
            chronicle.Attempts context surroundings named outcome' after' →
              Agrees chronicle.world.tables (outcome, after.world.tables) (outcome', after'.world.tables) := by
  intro unnamed named attempt
  have agrees : Agrees chronicle.world.tables (attempt unnamed) (attempt named) :=
    transfer.agrees found live rfl text
  refine ⟨agrees, fun context owner unarmed inTime untroubled => ?_⟩
  have ready : chronicle.Ready := ⟨(Regular.start defaultCurrency tables).run? ran, unarmed⟩
  cases defaultCurrency_run? ran
  obtain ⟨ends, only⟩ := ready.attempts untroubled inTime surroundings (RequestedAmount.parseMajor text none)
  obtain ⟨ends', only'⟩ :=
    ready.attempts untroubled inTime surroundings (RequestedAmount.parseMajor text (some account.currency))
  refine ⟨ends, ends', fun outcome after outcome' after' attempts attempts' => ?_⟩
  rw [only _ _ attempts, only' _ _ attempts', owner]
  exact agrees

/-- An account is opened, in euros.  A deposit of 12.50 to it is a deposit of 12.50 euros. -/
theorem unnamed_currency_is_own_euros :
    let context := RequestContext.ofUser ⟨Uuid.ofNat 1⟩
    let surroundings (number : Nat) : Surroundings :=
      ⟨⟨0, 0⟩, Uuid.ofNat number, fun _ _ => .error .outOfRange⟩
    let events : List Event :=
      .called context (.openAccount none) :: List.replicate 13 (.advanced 0 (surroundings 2))
    let transfer : Transfer := ⟨.credit, ⟨Uuid.ofNat 2⟩, .internal, none⟩
    ∃ chronicle entry outcome after outcome' after',
      (Chronicle.start .eur .empty).run? events = some chronicle ∧
      (Operation.attempt .eur context.user chronicle.world.tables (fun _ => surroundings 3)
        (transfer.spelled "12.50" (some .eur))).1 = .completed (.entry entry) ∧
      (Operation.attempt .eur context.user chronicle.world.tables (fun _ => surroundings 3)
        (transfer.spelled "12.50" none)).1 = .completed (.entry entry) ∧
      chronicle.Attempts context (surroundings 3) (transfer.spelled "12.50" none) outcome after ∧
      chronicle.Attempts context (surroundings 3) (transfer.spelled "12.50" (some .eur)) outcome' after' ∧
      Agrees chronicle.world.tables (outcome, after.world.tables) (outcome', after'.world.tables) := by
  intro context surroundings events transfer
  have ends : ((Chronicle.start .eur .empty).run? events).map (fun chronicle =>
      (chronicle.world.faults, chronicle.world.sessions.all (·.phase.ending.isSome),
        chronicle.world.tables.account? ⟨Uuid.ofNat 2⟩,
        (Operation.attempt .eur context.user chronicle.world.tables (fun _ => surroundings 3)
          (transfer.spelled "12.50" none)).1.value?.isSome)) =
      some (.none, true, some (.opened ⟨Uuid.ofNat 2⟩ context.user .eur ⟨0, 0⟩), true) := by
    decide
  obtain ⟨chronicle, ran, ends⟩ := Option.map_eq_some_iff.mp ends
  obtain ⟨unarmed, ends⟩ := Prod.mk.inj ends
  obtain ⟨ended, ends⟩ := Prod.mk.inj ends
  obtain ⟨opened, deposited⟩ := Prod.mk.inj ends
  have untroubled : chronicle.Untroubled transfer.account := by
    intro session member
    obtain ⟨outcome, ending⟩ := Option.isSome_iff_exists.mp (List.all_eq_true.mp ended session member)
    exact ((Regular.start .eur .empty).run? ran).not_isAfter_of_isOver member
      ⟨outcome, Session.Phase.ending_eq_some_iff.mp ending⟩ _
  have found : chronicle.world.tables.account? transfer.account =
      some (.opened ⟨Uuid.ofNat 2⟩ context.user .eur ⟨0, 0⟩) := opened
  obtain ⟨agrees, executed⟩ := unnamed_currency_is_own ran found rfl "12.50" (surroundings 3)
  obtain ⟨⟨outcome, after, attempts⟩, ⟨outcome', after', attempts'⟩, always⟩ :=
    executed context rfl unarmed rfl untroubled
  have answered : ∀ {done done' : Outcome Answer × Tables}, Agrees chronicle.world.tables done done' →
      done.1.value?.isSome = true →
        ∃ entry, done'.1 = .completed (.entry entry) ∧ done.1 = .completed (.entry entry) := by
    rintro _ _ (⟨entry, _⟩ | _) deposited
    · exact ⟨entry, rfl, rfl⟩
    · cases deposited
  obtain ⟨entry, named, unnamed⟩ := answered agrees deposited
  exact ⟨chronicle, entry, outcome, after, outcome', after', ran, named, unnamed, attempts, attempts',
    always _ _ _ _ attempts attempts'⟩

end Chronicle

end Service

end Passbook

import Passbook.Proofs.Service.Movements
/-!
# Calls on an account

An account is worked on where it stands: its fields are set one after the other, and what has been set stays set when
something fails later.  Each call checks all that it has to check before it sets anything, so that a call that fails
has changed nothing, and it comes to what the account is after the call.  From this the balance is, after any calls,
the exact sum of the movements that were accepted, and what is accepted next depends on the balance alone.
-/

namespace Passbook

-- Powers are those of natural numbers and integers, whatever else is in scope.
attribute [local instance (2000)] instPowNat

/-! ### Sums in range -/

namespace Money

variable {a b : Money} {result : Int}

theorem ofResult_of_inRange {currency : Currency} (atLeast : least ≤ result) (atMost : result ≤ greatest) :
    ofResult result currency = .ok ⟨result, currency, atLeast, atMost⟩ := by
  unfold ofResult ofMinor?
  rw [dif_pos ⟨atLeast, atMost⟩]

/-- A sum in range is money. -/
theorem add_of_inRange (same : a.currency = b.currency) (atLeast : least ≤ a.amount + b.amount)
    (atMost : a.amount + b.amount ≤ greatest) : a.add b = .ok ⟨_, a.currency, atLeast, atMost⟩ := by
  rw [add, ensureSameCurrency, if_pos same]
  exact ofResult_of_inRange atLeast atMost

/-- So is a difference. -/
theorem sub_of_inRange (same : a.currency = b.currency) (atLeast : least ≤ a.amount - b.amount)
    (atMost : a.amount - b.amount ≤ greatest) : a.sub b = .ok ⟨_, a.currency, atLeast, atMost⟩ := by
  rw [sub, ensureSameCurrency, if_pos same]
  exact ofResult_of_inRange atLeast atMost

end Money

namespace Account

/-! ### Work in place -/

/-- Work on an account in its place. -/
abbrev InPlace (α : Type) := ExceptT LedgerError (StateM Account) α

namespace InPlace

variable {α β : Type} {account : Account}

/-- What work comes to, and what it leaves of the account. -/
def on (work : InPlace α) (account : Account) : Except LedgerError α × Account := work.run.run account

/-- Go on if a check is passed. -/
def require (checked : Except LedgerError α) : InPlace α := ExceptT.mk (pure checked)

def setBalance (balance : Money) : InPlace Unit := modify fun account => { account with balance := balance }

def setUpdatedAt (now : Timestamp) : InPlace Unit := modify fun account => { account with updatedAt := now }

def setDeletedAt (now : Timestamp) : InPlace Unit := modify fun account => { account with deletedAt := some now }

/-- Work goes on where the work before it has left the account, unless that has failed. -/
@[simp] theorem on_bind (work : InPlace α) (next : α → InPlace β) : (work >>= next).on account =
    match work.on account with
    | (.ok a, left) => (next a).on left
    | (.error e, left) => (.error e, left) := by
  simp only [on, ExceptT.run_bind, StateT.run_bind]
  rcases work.run.run account with ⟨_ | _, left⟩ <;> rfl

@[simp] theorem on_get : (get : InPlace Account).on account = (.ok account, account) := rfl

@[simp] theorem on_pure (a : α) : (pure a : InPlace α).on account = (.ok a, account) := rfl

@[simp] theorem on_throw (e : LedgerError) : (throw e : InPlace α).on account = (.error e, account) := rfl

@[simp] theorem on_require (checked : Except LedgerError α) : (require checked).on account = (checked, account) := rfl

@[simp] theorem on_setBalance (balance : Money) :
    (setBalance balance).on account = (.ok (), { account with balance := balance }) := rfl

@[simp] theorem on_setUpdatedAt (now : Timestamp) :
    (setUpdatedAt now).on account = (.ok (), { account with updatedAt := now }) := rfl

@[simp] theorem on_setDeletedAt (now : Timestamp) :
    (setDeletedAt now).on account = (.ok (), { account with deletedAt := some now }) := rfl

/-- Add an amount to the balance. -/
def credit (amount : Money) (now : Timestamp) : InPlace Money := do
  let account ← get
  require (account.ensureMovement amount)
  let next ← require (account.balance.add amount)
  setBalance next
  setUpdatedAt now
  return next

/-- Take an amount from the balance. -/
def debit (amount : Money) (now : Timestamp) : InPlace Money := do
  let account ← get
  require (account.ensureMovement amount)
  let next ← require (account.balance.sub amount)
  if next.isNegative then
    throw (.insufficientFunds account.balance amount)
  setBalance next
  setUpdatedAt now
  return next

def close (now : Timestamp) : InPlace Unit := do
  let account ← get
  if account.isDeleted then
    throw (.notFound s!"account {account.id}")
  if !account.balance.isZero then
    throw (.invalid s!"account {account.id} still holds {account.balance}")
  setDeletedAt now
  setUpdatedAt now

end InPlace

variable {account moved : Account} {amount : Money} {now : Timestamp}

/-- What a change of an account comes to where the account stands. -/
def placed {α : Type} (account : Account) (answer : Account → α) (changed : Except LedgerError Account) :
    Except LedgerError α × Account :=
  match changed with
  | .ok moved => (.ok (answer moved), moved)
  | .error e => (.error e, account)

theorem on_credit (account : Account) (amount : Money) (now : Timestamp) :
    (InPlace.credit amount now).on account = account.placed balance (account.credit amount now) := by
  simp only [InPlace.credit, InPlace.on_bind, InPlace.on_get, InPlace.on_require, credit]
  cases account.ensureMovement amount with
  | error e => rfl
  | ok _ => cases account.balance.add amount <;> rfl

theorem on_debit (account : Account) (amount : Money) (now : Timestamp) :
    (InPlace.debit amount now).on account = account.placed balance (account.debit amount now) := by
  simp only [InPlace.debit, InPlace.on_bind, InPlace.on_get, InPlace.on_require, debit]
  cases account.ensureMovement amount with
  | error e => rfl
  | ok _ =>
      cases account.balance.sub amount with
      | error e => rfl
      | ok next =>
          simp only [bind, Except.bind]
          cases next.isNegative <;> rfl

theorem on_close (account : Account) (now : Timestamp) :
    (InPlace.close now).on account = account.placed (fun _ => ()) (account.close now) := by
  simp only [InPlace.close, InPlace.on_bind, InPlace.on_get, close]
  cases account.isDeleted with
  | true => rfl
  | false => cases account.balance.isZero <;> rfl

/-! ### Calls -/

inductive Call where
  | credit (amount : Money) (now : Timestamp)
  | debit (amount : Money) (now : Timestamp)
  | close (now : Timestamp)

namespace Call

/-- What a call does to an account in its place. -/
def work : Call → InPlace Unit
  | credit amount now => do let _ ← InPlace.credit amount now
  | debit amount now => do let _ ← InPlace.debit amount now
  | close now => InPlace.close now

def change (account : Account) : Call → Except LedgerError Account
  | credit amount now => account.credit amount now
  | debit amount now => account.debit amount now
  | close now => account.close now

/-- By how much a call changes the balance if it is accepted. -/
def movement : Call → Int
  | credit amount _ => amount.amount
  | debit amount _ => -amount.amount
  | close _ => 0

/-- A call leaves the account as it is after the call, or as it was if the call fails. -/
theorem on_work (call : Call) (account : Account) :
    call.work.on account = account.placed (fun _ => ()) (call.change account) := by
  cases call with
  | credit amount now =>
      simp only [work, change, InPlace.on_bind, on_credit]
      cases account.credit amount now <;> rfl
  | debit amount now =>
      simp only [work, change, InPlace.on_bind, on_debit]
      cases account.debit amount now <;> rfl
  | close now => exact account.on_close now

end Call

def Accepts (account : Account) (call : Call) : Prop := (call.work.on account).1 = .ok ()

/-- The account after calls, whether they were accepted or not. -/
def after (account : Account) : List Call → Account
  | [] => account
  | call :: rest => (call.work.on account).2.after rest

/-- The exact sum of the movements that an account accepts among calls. -/
def accepted (account : Account) : List Call → Int
  | [] => 0
  | call :: rest =>
    (match (call.work.on account).1 with
      | .ok _ => call.movement
      | .error _ => 0) + (call.work.on account).2.accepted rest

/-! ### What is accepted -/

theorem ensureMovement_of_positive (currency : amount.currency = account.currency) (positive : 0 < amount.amount) :
    account.ensureMovement amount = .ok () := by
  simp [ensureMovement, currency, Money.isPositive, positive]

/-- A credit is accepted exactly if it is of more than nothing, in the account's currency, and the balance stays in
range. -/
theorem exists_credit_iff : (∃ moved, account.credit amount now = .ok moved) ↔
    amount.currency = account.currency ∧ 0 < amount.amount ∧
      account.balance.amount + amount.amount ≤ Money.greatest := by
  constructor
  · rintro ⟨moved, credited⟩
    obtain ⟨positive, currency, balance, _, sum, _⟩ := credit_eq_ok credited
    exact ⟨currency, positive, sum ▸ balance.le_greatest⟩
  · rintro ⟨currency, positive, fits⟩
    have atLeast := account.balance.least_le
    rw [credit, ensureMovement_of_positive currency positive, Money.add_of_inRange currency.symm (by omega) fits]
    exact ⟨_, rfl⟩

/-- A debit is accepted if it is of more than nothing, in the account's currency and covered by the balance. -/
theorem exists_debit (currency : amount.currency = account.currency) (positive : 0 < amount.amount)
    (covered : amount.amount ≤ account.balance.amount) :
    ∃ moved, account.debit amount now = .ok moved := by
  have atMost := account.balance.le_greatest
  have atLeast : Money.least ≤ account.balance.amount - amount.amount := by
    unfold Money.least
    omega
  have notNegative : ¬ account.balance.amount - amount.amount < 0 := by omega
  rw [debit, ensureMovement_of_positive currency positive, Money.sub_of_inRange currency.symm atLeast (by omega)]
  simp only [bind, Except.bind, Money.isNegative, decide_eq_true_eq, if_neg notNegative]
  exact ⟨_, rfl⟩

/-- If it is not covered it is refused for that: from a balance that is not below nothing the difference is never out
of range. -/
theorem debit_of_not_covered (enough : 0 ≤ account.balance.amount) (currency : amount.currency = account.currency)
    (positive : 0 < amount.amount) (short : account.balance.amount < amount.amount) :
    account.debit amount now = .error (.insufficientFunds account.balance amount) := by
  have atMost := amount.le_greatest
  have atLeast : Money.least ≤ account.balance.amount - amount.amount := by
    unfold Money.least
    unfold Money.greatest at atMost
    omega
  have inRange : account.balance.amount - amount.amount ≤ Money.greatest := by
    unfold Money.greatest at atMost ⊢
    omega
  have negative : account.balance.amount - amount.amount < 0 := by omega
  rw [debit, ensureMovement_of_positive currency positive, Money.sub_of_inRange currency.symm atLeast inRange]
  simp only [bind, Except.bind, Money.isNegative, decide_eq_true_eq, if_pos negative]
  rfl

/-- Only an account that is open and holds nothing is closed, and such an account is. -/
theorem exists_close_iff :
    (∃ moved, account.close now = .ok moved) ↔ account.isDeleted = false ∧ account.balance.amount = 0 := by
  constructor
  · rintro ⟨moved, closed⟩
    exact close_eq_ok closed
  · rintro ⟨live, nothing⟩
    rw [close, live, if_neg Bool.false_ne_true, Money.isZero, nothing]
    exact ⟨_, rfl⟩

/-! ### What calls change -/

/-- An account after a movement: the same account of the same owner in the same currency, with another balance that is
not below nothing if the one before was not. -/
structure MovedBy (movement : Int) (account moved : Account) : Prop where
  id : moved.id = account.id
  owner : moved.owner = account.owner
  currency : moved.currency = account.currency
  createdAt : moved.createdAt = account.createdAt
  balance : moved.balance.amount = account.balance.amount + movement
  notNegative : 0 ≤ account.balance.amount → 0 ≤ moved.balance.amount

theorem MovedBy.refl (account : Account) : MovedBy 0 account account :=
  ⟨rfl, rfl, rfl, rfl, (Int.add_zero _).symm, fun enough => enough⟩

theorem MovedBy.trans {first second : Int} {account between moved : Account} (before : MovedBy first account between)
    (after : MovedBy second between moved) : MovedBy (first + second) account moved where
  id := after.id.trans before.id
  owner := after.owner.trans before.owner
  currency := after.currency.trans before.currency
  createdAt := after.createdAt.trans before.createdAt
  balance := by
    have sum := before.balance
    have sum' := after.balance
    omega
  notNegative := fun enough => after.notNegative (before.notNegative enough)

/-- A call that is accepted moves the account by its movement. -/
theorem Call.movedBy {call : Call} (changed : call.change account = .ok moved) :
    MovedBy call.movement account moved := by
  cases call with
  | credit amount now =>
      obtain ⟨positive, _, balance, rfl, sum, currency⟩ := credit_eq_ok changed
      exact ⟨rfl, rfl, currency, rfl, sum, fun enough => by simp only [withBalance]; omega⟩
  | debit amount now =>
      obtain ⟨_, _, balance, rfl, difference, currency, notNegative⟩ := debit_eq_ok changed
      exact ⟨rfl, rfl, currency, rfl, difference, fun _ => notNegative⟩
  | close now =>
      simp only [change, Account.close] at changed
      split at changed
      · cases changed
      · split at changed
        · cases changed
        · cases changed
          exact ⟨rfl, rfl, rfl, rfl, (Int.add_zero _).symm, fun enough => enough⟩

/-- Calls move an account by what it accepts among them. -/
theorem movedBy_after (account : Account) (calls : List Call) :
    MovedBy (account.accepted calls) account (account.after calls) := by
  induction calls generalizing account with
  | nil => exact .refl account
  | cons call rest inductionHypothesis =>
      have further := inductionHypothesis (call.work.on account).2
      rw [accepted, after]
      refine MovedBy.trans ?_ further
      rw [call.on_work]
      cases changed : call.change account with
      | ok moved => exact call.movedBy changed
      | error e => exact .refl account

/-! ### The arithmetic of an account -/

variable {call : Call}

theorem accepts_iff : account.Accepts call ↔ ∃ moved, call.change account = .ok moved := by
  rw [Accepts, call.on_work]
  cases call.change account <;> simp [placed]

/-- What an account accepts and what it does not. -/
structure Arithmetic (account : Account) : Prop where
  credit : ∀ amount now, account.Accepts (.credit amount now) ↔
    amount.currency = account.currency ∧ 0 < amount.amount ∧
      account.balance.amount + amount.amount ≤ Money.greatest
  debit : ∀ amount now, account.Accepts (.debit amount now) ↔
    amount.currency = account.currency ∧ 0 < amount.amount ∧ amount.amount ≤ account.balance.amount
  /-- A debit of more than nothing in the account's currency fails only for want of funds. -/
  shortage : ∀ (amount : Money) now e, amount.currency = account.currency → 0 < amount.amount →
    (((Call.debit amount now).work.on account).1 = .error e ↔
      account.balance.amount < amount.amount ∧ e = .insufficientFunds account.balance amount)
  close : ∀ now, account.Accepts (.close now) ↔ account.isDeleted = false ∧ account.balance.amount = 0
  /-- A call that fails leaves the account as it was. -/
  refused : ∀ call, ¬ account.Accepts call → (call.work.on account).2 = account

theorem arithmetic (enough : 0 ≤ account.balance.amount) : account.Arithmetic where
  credit _ _ := accepts_iff.trans exists_credit_iff
  debit amount now := by
    rw [accepts_iff]
    constructor
    · rintro ⟨moved, debited⟩
      obtain ⟨positive, currency, balance, _, difference, _, notNegative⟩ := debit_eq_ok debited
      exact ⟨currency, positive, by omega⟩
    · rintro ⟨currency, positive, covered⟩
      exact exists_debit currency positive covered
  shortage amount now e currency positive := by
    rw [Call.on_work, Call.change]
    rcases Int.lt_or_le account.balance.amount amount.amount with short | covered
    · rw [debit_of_not_covered enough currency positive short]
      constructor
      · intro refused
        cases refused
        exact ⟨short, rfl⟩
      · rintro ⟨_, rfl⟩
        rfl
    · have accepted : ∃ moved, account.debit amount now = .ok moved := exists_debit currency positive covered
      obtain ⟨moved, debited⟩ := accepted
      rw [debited]
      exact ⟨nofun, fun ⟨short, _⟩ => by omega⟩
  close _ := accepts_iff.trans exists_close_iff
  refused call refused := by
    rw [accepts_iff] at refused
    rw [call.on_work]
    cases changed : call.change account with
    | ok moved => exact absurd ⟨moved, changed⟩ refused
    | error e => rfl

/-- An account that was opened is, after any calls, still that of the same owner in the same currency, and its balance
is the exact sum of the movements that it has accepted, never below nothing.  A credit is accepted exactly if it is of
more than nothing, in the account's currency, and leaves the balance in range, a debit exactly if it is of more than
nothing, in the account's currency, and covered by the balance, and the account can be closed exactly if it is open and
holds nothing; a call that is not accepted changes nothing. -/
theorem opened_keeps_account (id : AccountId) (owner : UserId) (currency : Currency) (now : Timestamp)
    (calls : List Call) :
    let account := (opened id owner currency now).after calls
    account.balance.amount = (opened id owner currency now).accepted calls ∧ 0 ≤ account.balance.amount ∧
      account.id = id ∧ account.owner = owner ∧ account.currency = currency ∧ account.createdAt = now ∧
        account.Arithmetic := by
  intro account
  have moved : MovedBy _ (opened id owner currency now) account := movedBy_after _ calls
  have notNegative : 0 ≤ account.balance.amount := moved.notNegative (Int.le_refl 0)
  exact ⟨moved.balance.trans (Int.zero_add _), notNegative, moved.id, moved.owner, moved.currency, moved.createdAt,
    arithmetic notNegative⟩

def mostYen : Money := ⟨2 ^ (63 : Nat) - 1, .jpy, by decide, by decide⟩

/-- After the most yen were deposited and another deposit of them was refused, as much can be taken, but not as much
in dollars. -/
theorem opened_keeps_account_mostYen :
    let account := (opened ⟨Uuid.ofNat 1⟩ ⟨Uuid.ofNat 2⟩ .jpy ⟨0, 0⟩).after
      [.credit mostYen ⟨1, 0⟩, .credit mostYen ⟨2, 0⟩, .debit ⟨5, .usd, by decide, by decide⟩ ⟨3, 0⟩]
    account.balance.amount = 2 ^ (63 : Nat) - 1 ∧ account.Accepts (.debit mostYen ⟨4, 0⟩) ∧
      ¬ account.Accepts (.credit ⟨1, .jpy, by decide, by decide⟩ ⟨4, 0⟩) ∧ ¬ account.Accepts (.close ⟨4, 0⟩) := by
  intro account
  obtain ⟨balance, _, _, _, currency, _, arithmetic⟩ := opened_keeps_account
    ⟨Uuid.ofNat 1⟩ ⟨Uuid.ofNat 2⟩ .jpy ⟨0, 0⟩
    [.credit mostYen ⟨1, 0⟩, .credit mostYen ⟨2, 0⟩, .debit ⟨5, .usd, by decide, by decide⟩ ⟨3, 0⟩]
  have full : account.balance.amount = 2 ^ (63 : Nat) - 1 := balance.trans (by decide)
  refine ⟨full, (arithmetic.debit _ _).mpr ⟨currency.symm, by decide, Int.le_of_eq full.symm⟩,
    fun accepted => ?_, fun accepted => ?_⟩
  · have fits := ((arithmetic.credit _ _).mp accepted).2.2
    rw [full] at fits
    exact absurd fits (by decide)
  · have nothing := ((arithmetic.close _).mp accepted).2
    rw [full] at nothing
    exact absurd nothing (by decide)

end Account

end Passbook

import Passbook.Service.Operation
/-!
# Movements

What it takes for a movement to be allowed, and what it does: the balance changes by the amount of the entry,
in the currency of the account, and is never less than nothing afterwards.
-/

namespace Passbook

/-! ### Sums -/

namespace Money

variable {a b sum : Money}

/-- Amounts of money are the same if they are as much, in one currency. -/
theorem eq_of_amount {one other : Money} (amount : one.amount = other.amount)
    (currency : one.currency = other.currency) : one = other := by
  cases one
  cases other
  cases amount
  cases currency
  rfl

theorem ofResult_eq_ok {amount : Int} {currency : Currency} (fits : ofResult amount currency = .ok sum) :
    sum.amount = amount ∧ sum.currency = currency := by
  unfold ofResult ofMinor? at fits
  split at fits
  · rename_i found
    split at found
    · cases found
      cases fits
      exact ⟨rfl, rfl⟩
    · cases found
  · cases fits

/-- A sum is exact, and of amounts in one currency. -/
theorem add_eq_ok (added : a.add b = .ok sum) :
    a.currency = b.currency ∧ sum.amount = a.amount + b.amount ∧ sum.currency = a.currency := by
  unfold add ensureSameCurrency at added
  split at added
  · rename_i same
    exact ⟨same, ofResult_eq_ok added⟩
  · cases added

/-- So is a difference. -/
theorem sub_eq_ok (subtracted : a.sub b = .ok sum) :
    a.currency = b.currency ∧ sum.amount = a.amount - b.amount ∧ sum.currency = a.currency := by
  unfold sub ensureSameCurrency at subtracted
  split at subtracted
  · rename_i same
    exact ⟨same, ofResult_eq_ok subtracted⟩
  · cases subtracted

/-- Major units come to an amount in the currency that they are taken for. -/
theorem ofMajor_eq_ok {value : Decimal} {currency : Currency} (fits : ofMajor value currency = .ok sum) :
    sum.currency = currency := by
  unfold ofMajor at fits
  dsimp only at fits
  split at fits
  · cases fits
  · split at fits
    · split at fits
      · rename_i found
        cases fits
        unfold ofMinor? at found
        split at found
        · cases found
          rfl
        · cases found
      · cases fits
    · cases fits

theorem neg_eq_ok (negated : a.neg = .ok b) : b.amount = -a.amount ∧ b.currency = a.currency :=
  ofResult_eq_ok negated

end Money

/-! ### Changes of an account -/

namespace Account

variable {account moved : Account} {amount : Money} {now : Timestamp}

theorem ensureMovement_eq_ok (allowed : account.ensureMovement amount = .ok ()) :
    amount.currency = account.currency ∧ 0 < amount.amount := by
  unfold ensureMovement at allowed
  split at allowed
  · cases allowed
  · rename_i same
    split at allowed
    · cases allowed
    · rename_i positive
      refine ⟨Decidable.not_not.mp same, ?_⟩
      simpa [Money.isPositive] using positive

theorem ensureOwnedBy_eq_ok {user : UserId} (allowed : account.ensureOwnedBy user = .ok ()) :
    account.owner = user := by
  unfold ensureOwnedBy at allowed
  split at allowed
  · rename_i owned
    simpa [isOwnedBy] using owned
  · cases allowed

/-- A credit adds more than nothing, in the account's currency. -/
theorem credit_eq_ok (credited : account.credit amount now = .ok moved) :
    0 < amount.amount ∧ amount.currency = account.currency ∧
      ∃ balance : Money, moved = account.withBalance balance now ∧
        balance.amount = account.balance.amount + amount.amount ∧
          balance.currency = account.currency := by
  unfold credit at credited
  cases allowed : account.ensureMovement amount with
  | error e =>
      rw [allowed] at credited
      cases credited
  | ok _ =>
      obtain ⟨currency, positive⟩ := ensureMovement_eq_ok allowed
      rw [allowed] at credited
      cases added : account.balance.add amount with
      | error e =>
          simp only [added, bind, Except.bind] at credited
          cases credited
      | ok balance =>
          simp only [added, bind, Except.bind] at credited
          cases credited
          obtain ⟨_, sum, currency'⟩ := Money.add_eq_ok added
          exact ⟨positive, currency, balance, rfl, sum, currency'⟩

/-- A debit takes away more than nothing, and no more than there is. -/
theorem debit_eq_ok (debited : account.debit amount now = .ok moved) :
    0 < amount.amount ∧ amount.currency = account.currency ∧
      ∃ balance : Money, moved = account.withBalance balance now ∧
        balance.amount = account.balance.amount - amount.amount ∧
          balance.currency = account.currency ∧ 0 ≤ balance.amount := by
  unfold debit at debited
  cases allowed : account.ensureMovement amount with
  | error e =>
      rw [allowed] at debited
      cases debited
  | ok _ =>
      obtain ⟨currency, positive⟩ := ensureMovement_eq_ok allowed
      rw [allowed] at debited
      cases subtracted : account.balance.sub amount with
      | error e =>
          simp only [subtracted, bind, Except.bind] at debited
          cases debited
      | ok balance =>
          simp only [subtracted, bind, Except.bind] at debited
          split at debited
          · cases debited
          · rename_i covered
            cases debited
            obtain ⟨_, difference, currency'⟩ := Money.sub_eq_ok subtracted
            refine ⟨positive, currency, balance, rfl, difference, currency', ?_⟩
            simpa [Money.isNegative] using covered

/-- Only an account that is open and holds nothing is closed. -/
theorem close_eq_ok (closed : account.close now = .ok moved) :
    account.isDeleted = false ∧ account.balance.amount = 0 := by
  unfold close at closed
  split at closed
  · cases closed
  · rename_i live
    split at closed
    · cases closed
    · rename_i nothing
      refine ⟨by simpa using live, ?_⟩
      simpa [Money.isZero] using nothing

end Account

/-- An entry records the amount of a movement, other than nothing, and the balance it has led to, both in
the account's currency. -/
theorem LedgerEntry.record_eq_ok {id : TransactionId} {account : Account} {user : UserId}
    {amount : Money} {source : MoneySource} {conversion : Option ConversionInfo}
    {maskedTarget : Option String} {now : Timestamp} {entry : LedgerEntry}
    (recorded : record id account user amount source conversion maskedTarget now = .ok entry) :
    amount.currency = account.currency ∧ amount.amount ≠ 0 ∧
      entry = ⟨id, account.id, user, amount, account.balance, source, conversion, maskedTarget, now⟩ := by
  unfold record at recorded
  split at recorded
  · cases recorded
  · rename_i same
    split at recorded
    · cases recorded
    · rename_i something
      cases recorded
      refine ⟨Decidable.not_not.mp same, ?_, rfl⟩
      simpa [Money.isZero] using something

/-- A conversion is recorded with a rate greater than zero. -/
theorem ConversionInfo.record_eq_ok {stated : Money} {rate : Decimal} {info : ConversionInfo}
    (recorded : record stated rate = .ok info) : rate.isPositive = true ∧ info = ⟨stated, rate⟩ := by
  unfold record at recorded
  split at recorded
  · rename_i positive
    cases recorded
    exact ⟨positive, rfl⟩
  · cases recorded

/-- A movement changes the balance by the amount of its entry, and does not leave less than nothing where
there was not less than nothing. -/
theorem Service.applyMovement_eq_ok {direction : Service.Direction} {account moved : Account}
    {amount signed : Money} {now : Timestamp}
    (applied : Service.applyMovement direction account amount now = .ok (moved, signed)) :
    ∃ balance : Money, moved = account.withBalance balance now ∧
      balance.amount = account.balance.amount + signed.amount ∧ balance.currency = account.currency ∧
        signed.currency = account.currency ∧ (0 ≤ account.balance.amount → 0 ≤ balance.amount) := by
  cases direction with
  | credit =>
      cases credited : account.credit amount now with
      | error e =>
          simp only [Service.applyMovement, credited, bind, Except.bind] at applied
          cases applied
      | ok moved' =>
          simp only [Service.applyMovement, credited, bind, Except.bind] at applied
          cases applied
          obtain ⟨positive, currency, balance, rfl, sum, currency'⟩ := Account.credit_eq_ok credited
          refine ⟨balance, rfl, sum, currency', currency, ?_⟩
          intro enough
          omega
  | debit =>
      cases debited : account.debit amount now with
      | error e =>
          simp only [Service.applyMovement, debited, bind, Except.bind] at applied
          cases applied
      | ok moved' =>
          simp only [Service.applyMovement, debited, bind, Except.bind] at applied
          cases negated : amount.neg with
          | error e =>
              rw [negated] at applied
              cases applied
          | ok signed' =>
              rw [negated] at applied
              cases applied
              obtain ⟨positive, currency, balance, rfl, difference, currency', enough⟩ :=
                Account.debit_eq_ok debited
              obtain ⟨opposite, currency''⟩ := Money.neg_eq_ok negated
              refine ⟨balance, rfl, ?_, currency', currency''.trans currency, fun _ => enough⟩
              omega

/-- An amount is in the right currency already, or the converter is asked for it, and nobody else. -/
theorem Service.convertWork_cases {ν : Type} (amount : Money) (target : Currency) :
    (convertWork amount target : Session.Work ν _) = .done (.ok (amount, none)) ∨
      ∃ come : Except ConversionError Quote → Except LedgerError (Money × Option ConversionInfo),
        (convertWork amount target : Session.Work ν _) =
          .convert amount target fun answer => .done (come answer) := by
  unfold convertWork
  split
  · exact .inl rfl
  · refine .inr ⟨fun answer => answer.mapError LedgerError.ofConversion >>= fun quote =>
      if quote.converted.isPositive then
        (fun info => (quote.converted, some info)) <$> ConversionInfo.record amount quote.rate
      else .error (convertsToNothing amount quote.converted), ?_⟩
    refine congrArg (Session.Work.convert amount target) (funext fun answer => ?_)
    cases answer with
    | error e => rfl
    | ok quote =>
        change (if _ then _ else _) = Session.Work.done (if _ then _ else _)
        split
        · cases ConversionInfo.record amount quote.rate <;> rfl
        · rfl

end Passbook

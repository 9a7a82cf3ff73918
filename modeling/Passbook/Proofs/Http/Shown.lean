import Passbook.Proofs.Http.Amounts
import Passbook.Proofs.Uuid.Writing
/-!
# What a client is shown

What it means for a JSON value to show an amount of money, a conversion, an account or an entry: which members it
has and what stands in each of them.  That is said of any value, whoever has made it; the views of the library are
such values.
-/

namespace Passbook

open Json (Value)

variable {value : Value}

/-! ### What stands in the members -/

/-- An identifier is shown in its written form, from which it is read again. -/
structure Uuid.ShownAs (id : Uuid) (key : String) (value : Value) : Prop where
  written : value.member? key = some (.string id.toText)
  read : parse id.toText = .ok id

/-- A currency is shown by its code, from which it is read again. -/
structure Currency.ShownAs (currency : Currency) (key : String) (value : Value) : Prop where
  written : value.member? key = some (.string currency.code)
  read : parse currency.code = .ok currency

/-- An amount of money is shown in major units, as a numeral for what it is worth, in minor units, and with its
currency. -/
structure Money.Shows (value : Value) (money : Money) : Prop where
  amount : ∃ (text : String) (numeral : Decimal.Numeral), value.member? "amount" = some (.string text) ∧
    text.toList = numeral.text ∧ money.IsWorth numeral.value
  minor : value.member? "amount_minor" = some (.integer money.amount)
  currency : money.currency.ShownAs "currency" value

/-- It is shown as a member of something else. -/
def Money.ShownAs (money : Money) (key : String) (value : Value) : Prop :=
  ∃ part, value.member? key = some part ∧ Shows part money

/-- A conversion is shown by the amount that was stated and, as a numeral, the rate. -/
structure ConversionInfo.Shows (value : Value) (info : ConversionInfo) : Prop where
  stated : info.stated.ShownAs "original" value
  rate : ∃ (text : String) (numeral : Decimal.Numeral), value.member? "rate" = some (.string text) ∧
    text.toList = numeral.text ∧ numeral.value = info.rate.toRat

structure Account.Shows (value : Value) (account : Account) : Prop where
  id : account.id.uuid.ShownAs "id" value
  owner : account.owner.uuid.ShownAs "owner_id" value
  currency : account.currency.ShownAs "currency" value
  balance : account.balance.ShownAs "balance" value
  createdAt : value.member? "created_at" = some (.string account.createdAt.toOffsetText)
  updatedAt : value.member? "updated_at" = some (.string account.updatedAt.toOffsetText)

/-- An entry is shown with the sign of its amount put into words.  Who made it is not shown. -/
structure LedgerEntry.Shows (value : Value) (entry : LedgerEntry) : Prop where
  id : entry.id.uuid.ShownAs "id" value
  account : entry.account.uuid.ShownAs "account_id" value
  credit : 0 < entry.amount.amount → value.member? "direction" = some (.string "credit")
  debit : entry.amount.amount < 0 → value.member? "direction" = some (.string "debit")
  amount : entry.amount.ShownAs "amount" value
  balance : entry.balance.ShownAs "balance" value
  source : value.member? "money_source" = some (.string entry.source.name)
  unconverted : entry.conversion = none → value.member? "conversion" = some .null
  converted : ∀ info, entry.conversion = some info →
    ∃ part, value.member? "conversion" = some part ∧ info.Shows part
  untargeted : entry.maskedTarget = none → value.member? "external_target" = some .null
  targeted : ∀ masked, entry.maskedTarget = some masked → value.member? "external_target" = some (.string masked)
  createdAt : value.member? "created_at" = some (.string entry.createdAt.toOffsetText)

/-! ### Views -/

theorem Money.shows_view (money : Money) : Shows money.view money := by
  obtain ⟨numeral, text, worth⟩ := money.exists_numeral
  exact ⟨⟨_, numeral, rfl, text, worth⟩, rfl, rfl, money.currency.parse_code⟩

theorem ConversionInfo.shows_view (info : ConversionInfo) : Shows info.view info where
  stated := ⟨_, rfl, info.stated.shows_view⟩
  rate := ⟨_, info.rate.numeral, rfl, Decimal.toList_toText _, Decimal.value_numeral _⟩

theorem Account.shows_view (account : Account) : Shows account.view account where
  id := ⟨rfl, account.id.uuid.parse_toText⟩
  owner := ⟨rfl, account.owner.uuid.parse_toText⟩
  currency := ⟨rfl, account.currency.parse_code⟩
  balance := ⟨_, rfl, account.balance.shows_view⟩
  createdAt := rfl
  updatedAt := rfl

private theorem LedgerEntry.member?_direction (entry : LedgerEntry) :
    entry.view.member? "direction" = some (.string (if 0 < entry.amount.amount then "credit" else "debit")) := by
  simp only [view, isCredit, Money.isPositive, decide_eq_true_eq]
  rfl

theorem LedgerEntry.shows_view (entry : LedgerEntry) : Shows entry.view entry where
  id := ⟨rfl, entry.id.uuid.parse_toText⟩
  account := ⟨rfl, entry.account.uuid.parse_toText⟩
  credit credit := by rw [entry.member?_direction, if_pos credit]
  debit debit := by rw [entry.member?_direction, if_neg (by omega)]
  amount := ⟨_, rfl, entry.amount.shows_view⟩
  balance := ⟨_, rfl, entry.balance.shows_view⟩
  source := rfl
  unconverted unconverted := by
    simp only [view, unconverted]
    rfl
  converted info converted := by
    refine ⟨info.view, ?_, info.shows_view⟩
    simp only [view, converted]
    rfl
  untargeted untargeted := by
    simp only [view, untargeted]
    rfl
  targeted masked targeted := by
    simp only [view, targeted]
    rfl
  createdAt := rfl

end Passbook

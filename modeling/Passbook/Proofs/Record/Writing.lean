import Passbook.Proofs.Decimal.Writing
import Passbook.Proofs.Json.Records
import Passbook.Proofs.Rates.Tables
import Passbook.Proofs.Time.Text
import Passbook.Proofs.Uuid.Writing
import Passbook.Record.Entry
/-!
# Records that are written

What is written of a value of the ledger is read as this value.
-/

namespace Passbook

-- Powers are those of natural numbers and integers, whatever else is in scope.
attribute [local instance (2000)] instPowNat

open Json (Reader Value Tree Shape readAll readPositional_of)

/-! ### Small values -/

theorem Currency.readRecord_toRecord (currency : Currency) : readRecord currency.toRecord.tree = .ok currency := by
  have parsed : (parse currency.code).toOption = some currency := by
    cases currency <;> decide
  exact Tree.readTextAs_string parsed

theorem Uuid.readRecord_toRecord (id : Uuid) : readRecord id.toRecord.tree = .ok id :=
  Tree.readTextAs_string (by rw [parse_toText]; rfl)

theorem UserId.readRecord_toRecord (id : UserId) : readRecord id.uuid.toRecord.tree = .ok id := by
  rw [readRecord, Uuid.readRecord_toRecord]
  rfl

theorem AccountId.readRecord_toRecord (id : AccountId) : readRecord id.uuid.toRecord.tree = .ok id := by
  rw [readRecord, Uuid.readRecord_toRecord]
  rfl

theorem TransactionId.readRecord_toRecord (id : TransactionId) : readRecord id.uuid.toRecord.tree = .ok id := by
  rw [readRecord, Uuid.readRecord_toRecord]
  rfl

theorem MoneySource.readRecord_toRecord (source : MoneySource) : readRecord source.toRecord.tree = .ok source := by
  cases source <;> decide

/-- A point in time in a year of four digits, and in no leap second. -/
structure Timestamp.Ordinary (t : Timestamp) : Prop where
  year_nonneg : 0 ≤ t.date.year
  year_le : t.date.year ≤ 9999
  nanos_lt : t.nanos < nanosPerSecond

theorem Timestamp.Ordinary.readRecord_toRecord {t : Timestamp} (ordinary : t.Ordinary) :
    readRecord t.toRecord.tree = .ok t :=
  Tree.readTextAs_string (parse?_toText ordinary.year_nonneg ordinary.year_le ordinary.nanos_lt)

/-- A decimal that is written is read with the same mantissa and the same scale. -/
theorem Decimal.readRecord_toRecord {d : Decimal} (signed : d.unsignZero = d) : readRecord d.toRecord.tree = .ok d :=
  Tree.readTextAs_string (by rw [parse_toText, signed]; rfl)

theorem Decimal.unsignZero_of_pos {d : Decimal} (positive : 0 < d.toRat) : d.unsignZero = d := by
  refine if_neg fun nothing => ?_
  rw [toRat_of_mantissa_eq_zero nothing] at positive
  exact lt_irrefl _ positive

/-! ### Records -/

theorem Money.readRecord_toRecord (money : Money) : readRecord money.toRecord.tree = .ok money := by
  have least : -2 ^ 63 ≤ money.amount := money.least_le
  have greatest : money.amount ≤ 2 ^ 63 - 1 := money.le_greatest
  have amount := Tree.readInteger_integer least (by omega)
  rw [toRecord, readRecord, Shape.read_object (by decide) rfl]
  refine Shape.read_array ⟨some money.amount, some money.currency⟩ ?_ ?_
  · exact (readPositional_of amount).trans <| readPositional_of money.currency.readRecord_toRecord
  · exact dif_pos ⟨money.least_le, money.le_greatest⟩

theorem ConversionInfo.readRecord_toRecord {info : ConversionInfo} (signed : info.rate.unsignZero = info.rate) :
    readRecord info.toRecord.tree = .ok info := by
  rw [toRecord, readRecord, Shape.read_object (by decide) rfl]
  refine Shape.read_array ⟨some info.stated, some info.rate⟩ ?_ rfl
  exact (readPositional_of info.stated.readRecord_toRecord).trans <|
    readPositional_of (Decimal.readRecord_toRecord signed)

theorem Account.readRecord_toRecord {account : Account} (created : account.createdAt.Ordinary)
    (updated : account.updatedAt.Ordinary) (deleted : ∀ t ∈ account.deletedAt, t.Ordinary) :
    readRecord account.toRecord.tree = .ok account := by
  have closed : Tree.readOptional Timestamp.readRecord
      (Value.ofOption (account.deletedAt.map Timestamp.toRecord)).tree = .ok account.deletedAt :=
    Tree.readOptional_ofOption (fun t => by simp [Timestamp.toRecord, Value.tree]) fun t known =>
      (deleted t known).readRecord_toRecord
  rw [toRecord, readRecord, Shape.read_object (by decide) rfl]
  refine Shape.read_array ⟨some account.id, some account.owner, some account.balance, some account.createdAt,
    some account.updatedAt, account.deletedAt⟩ ?_ rfl
  exact (readPositional_of account.id.readRecord_toRecord).trans <|
    (readPositional_of account.owner.readRecord_toRecord).trans <|
    (readPositional_of account.balance.readRecord_toRecord).trans <|
    (readPositional_of created.readRecord_toRecord).trans <|
    (readPositional_of updated.readRecord_toRecord).trans <|
    readPositional_of closed

theorem LedgerEntry.readRecord_toRecord {entry : LedgerEntry} (created : entry.createdAt.Ordinary)
    (signed : ∀ info ∈ entry.conversion, info.rate.unsignZero = info.rate) :
    readRecord entry.toRecord.tree = .ok entry := by
  have conversion : Tree.readOptional ConversionInfo.readRecord
      (Value.ofOption (entry.conversion.map ConversionInfo.toRecord)).tree = .ok entry.conversion :=
    Tree.readOptional_ofOption (fun info => by simp [ConversionInfo.toRecord, Value.tree]) fun info known =>
      ConversionInfo.readRecord_toRecord (signed info known)
  have target : Tree.readOptional Tree.readText (Value.ofOption (entry.maskedTarget.map .string)).tree =
      .ok entry.maskedTarget :=
    Tree.readOptional_ofOption (fun text => by simp [Value.tree]) fun _ _ => rfl
  rw [toRecord, readRecord, Shape.read_object (by decide) rfl]
  refine Shape.read_array ⟨some entry.id, some entry.account, some entry.user, some entry.amount, some entry.balance,
    some entry.source, entry.conversion, entry.maskedTarget, some entry.createdAt⟩ ?_ rfl
  exact (readPositional_of entry.id.readRecord_toRecord).trans <|
    (readPositional_of entry.account.readRecord_toRecord).trans <|
    (readPositional_of entry.user.readRecord_toRecord).trans <|
    (readPositional_of entry.amount.readRecord_toRecord).trans <|
    (readPositional_of entry.balance.readRecord_toRecord).trans <|
    (readPositional_of entry.source.readRecord_toRecord).trans <|
    (readPositional_of conversion).trans <|
    (readPositional_of target).trans <|
    readPositional_of created.readRecord_toRecord

/-! ### Values and their texts -/

/-- Exactly the texts of codes are read as currencies, in whatever letter case and with whatever blanks around. -/
theorem Currency.readAll_eq_ok_iff {text : String} {currency : Currency} :
    readAll readRecord text = .ok currency ↔
      ∃ s, Json.treeOf text.toList = (.string (some s), []) ∧ RateTable.IsCode s.toList currency := by
  have isCode : ∀ s : String, (parse s).toOption = some currency ↔ RateTable.IsCode s.toList currency := by
    intro s
    rw [← RateTable.parse_code_eq_ok_iff, String.ofList_toList]
    cases parse s <;> simp [Except.toOption]
  rw [Json.readAll_eq_ok_iff]
  constructor
  · rintro ⟨tree, front, read⟩
    obtain ⟨s, rfl, known⟩ := Tree.readTextAs_eq_ok_iff.mp read
    exact ⟨s, front, (isCode s).mp known⟩
  · rintro ⟨s, front, code⟩
    exact ⟨_, front, Tree.readTextAs_string ((isCode s).mpr code)⟩

/-- What is written of amounts, of conversions at rates greater than zero, and of accounts and entries with points in
time in years of four digits is read as the same values, to the last decimal of a rate; and currencies are
read from their codes only, which are in upper case. -/
theorem written_values_read_back :
    (∀ money : Money, readAll Money.readRecord money.toRecord.toText = .ok money) ∧
    (∀ info : ConversionInfo, 0 < info.rate.toRat →
      readAll ConversionInfo.readRecord info.toRecord.toText = .ok info) ∧
    (∀ account : Account, account.createdAt.Ordinary → account.updatedAt.Ordinary →
      (∀ t ∈ account.deletedAt, t.Ordinary) → readAll Account.readRecord account.toRecord.toText = .ok account) ∧
    (∀ entry : LedgerEntry, entry.createdAt.Ordinary → (∀ info ∈ entry.conversion, 0 < info.rate.toRat) →
      readAll LedgerEntry.readRecord entry.toRecord.toText = .ok entry) ∧
    ∀ (text : String) (currency : Currency), readAll Currency.readRecord text = .ok currency →
      (∃ s, Json.treeOf text.toList = (.string (some s), []) ∧ RateTable.IsCode s.toList currency) ∧
      currency ∈ Currency.all ∧ ∀ c ∈ currency.code.toList, c.isUpper = true := by
  refine ⟨fun money => ?_, fun info positive => ?_, fun account created updated deleted => ?_,
    fun entry created positive => ?_, fun text currency read => ⟨?_, currency.mem_all, ?_⟩⟩
  · rw [Value.readAll_toText, money.readRecord_toRecord]
  · rw [Value.readAll_toText, ConversionInfo.readRecord_toRecord (Decimal.unsignZero_of_pos positive)]
  · rw [Value.readAll_toText, Account.readRecord_toRecord created updated deleted]
  · rw [Value.readAll_toText, LedgerEntry.readRecord_toRecord created fun info known =>
      Decimal.unsignZero_of_pos (positive info known)]
  · exact Currency.readAll_eq_ok_iff.mp read
  · have all : currency.code.toList.all Char.isUpper = true := by cases currency <;> decide
    exact List.all_eq_true.mp all

/-- An entry for euros that were paid out of an account in dollars, to a target with a line break in its name. -/
def paidInEuros : LedgerEntry where
  id := ⟨Uuid.ofNat 7⟩
  account := ⟨Uuid.ofNat 1⟩
  user := ⟨Uuid.ofNat 2⟩
  amount := ⟨-108, .usd, by decide, by decide⟩
  balance := ⟨892, .usd, by decide, by decide⟩
  source := .externalBank
  conversion := some ⟨⟨100, .eur, by decide, by decide⟩, ⟨false, 10800, 4, by decide, by decide⟩⟩
  maskedTarget := some "bank\n****\u00df\u0001"
  createdAt := ⟨951782400, 120000⟩

/-- The entry comes back with all four decimals of its rate, its leap day and its microseconds. -/
theorem written_values_read_back_paidInEuros :
    paidInEuros.createdAt.toText = "2000-02-29T00:00:00.000120Z" ∧
      paidInEuros.conversion.map (fun info => info.rate.toText) = some "1.0800" ∧
      readAll LedgerEntry.readRecord paidInEuros.toRecord.toText = .ok paidInEuros := by
  refine ⟨by decide, by decide +kernel, written_values_read_back.2.2.2.1 paidInEuros ?_ ?_⟩
  · exact ⟨by decide, by decide, by decide⟩
  · rintro info ⟨⟩
    rw [← Decimal.isPositive_iff]
    rfl

end Passbook

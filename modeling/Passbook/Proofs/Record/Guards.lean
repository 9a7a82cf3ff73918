import Passbook.Proofs.Record.Writing
/-!
# Rates that are read

A conversion can be recorded at a rate greater than zero only, but it can be read at any: its rate is the one that is
written, in a record of its own or within the record of an entry.
-/

namespace Passbook

-- Powers are those of natural numbers and integers, whatever else is in scope.
attribute [local instance (2000)] instPowNat

open Json (Tree readAll Sets Field)

namespace ConversionInfo

def writtenRate? (tree : Tree) : Option Decimal :=
  (tree.part? (shape.fields.map (·.name)) "rate").bind fun part => (Decimal.readRecord part).toOption

theorem sets_rate : Sets shape.fields "rate" Decimal.readRecord Draft.rate where
  distinct := by decide
  sets field member named _ _ _ ok := by
    simp only [shape, List.mem_cons, List.not_mem_nil, or_false] at member
    rcases member with rfl | rfl
    · simp [Field.of] at named
    · obtain ⟨rate, known, rfl⟩ := Field.of_read_eq_ok.mp ok
      exact ⟨rate, known, rfl⟩
  keeps field member named _ _ _ ok := by
    simp only [shape, List.mem_cons, List.not_mem_nil, or_false] at member
    rcases member with rfl | rfl
    · obtain ⟨_, _, rfl⟩ := Field.of_read_eq_ok.mp ok
      rfl
    · exact absurd rfl named

/-- The rate of a conversion that is read is the one that is written. -/
theorem writtenRate?_of_readRecord {tree : Tree} {info : ConversionInfo} (read : readRecord tree = .ok info) :
    writtenRate? tree = some info.rate := by
  obtain ⟨⟨stated, rate⟩, built, comes⟩ := Json.Shape.comesFrom sets_rate (by decide) read
  obtain ⟨rfl⟩ : rate = some info.rate := by
    cases stated <;> cases rate <;> cases built
    rfl
  unfold writtenRate?
  cases place : tree.part? (shape.fields.map (·.name)) "rate" with
  | none =>
      rw [place] at comes
      cases comes
  | some part =>
      rw [place] at comes
      obtain ⟨rate, known, same⟩ := comes
      rw [Option.bind_some, known, Option.some.inj same]
      rfl

end ConversionInfo

namespace LedgerEntry

/-- What is written in the record of an entry in the place of its conversion. -/
def writtenConversion? (tree : Tree) : Option Tree := tree.part? (shape.fields.map (·.name)) "conversion"

theorem sets_conversion : Sets shape.fields "conversion" (Tree.readOptional ConversionInfo.readRecord)
    (fun draft => some draft.conversion) where
  distinct := by decide
  sets field member named _ _ _ ok := by
    simp only [shape, List.mem_cons, List.not_mem_nil, or_false] at member
    rcases member with rfl | rfl | rfl | rfl | rfl | rfl | rfl | rfl | rfl
    case inr.inr.inr.inr.inr.inr.inl =>
      obtain ⟨info, known, rfl⟩ := Field.of_read_eq_ok.mp ok
      exact ⟨info, known, rfl⟩
    all_goals simp [Field.of] at named
  keeps field member named _ _ _ ok := by
    simp only [shape, List.mem_cons, List.not_mem_nil, or_false] at member
    rcases member with rfl | rfl | rfl | rfl | rfl | rfl | rfl | rfl | rfl
    case inr.inr.inr.inr.inr.inr.inl => exact absurd rfl named
    all_goals
      obtain ⟨_, _, rfl⟩ := Field.of_read_eq_ok.mp ok
      rfl

/-- The conversion of an entry that is read is the one that is written in its place. -/
theorem writtenConversion?_of_readRecord {tree : Tree} {entry : LedgerEntry} {info : ConversionInfo}
    (read : readRecord tree = .ok entry) (converted : entry.conversion = some info) :
    ∃ part, writtenConversion? tree = some part ∧ ConversionInfo.readRecord part = .ok info := by
  obtain ⟨draft, built, comes⟩ := Json.Shape.comesFrom sets_conversion (by decide) read
  have same : draft.conversion = entry.conversion := by
    obtain ⟨id, account, user, amount, balance, source, conversion, target, created⟩ := draft
    cases id <;> cases account <;> cases user <;> cases amount <;> cases balance <;> cases source <;>
      cases created <;> cases built
    rfl
  rw [same, converted] at comes
  unfold writtenConversion?
  cases place : tree.part? (shape.fields.map (·.name)) "conversion" with
  | none =>
      rw [place] at comes
      cases comes
  | some part =>
      rw [place] at comes
      obtain ⟨_, known, ⟨⟩⟩ := comes
      refine ⟨part, rfl, ?_⟩
      unfold Tree.readOptional at known
      split at known
      · cases known
      · cases ok : ConversionInfo.readRecord part with
        | error problem =>
            rw [ok] at known
            cases known
        | ok info' =>
            rw [ok] at known
            cases known
            rfl

end LedgerEntry

/-- A conversion is recorded at a rate greater than zero only.  One that is read from a text, on its own or as part of
an entry, could have been recorded exactly if the rate that is written in this text is greater than zero; and there
is a text for every conversion and every entry, whatever the rate, so that what is not recorded can be read. -/
theorem ConversionInfo.recordable_iff_written_positive (text : String) :
    (∀ stated rate, (∃ info, record stated rate = .ok info) ↔ 0 < rate.toRat) ∧
    (∀ info, readAll readRecord text = .ok info →
      (record info.stated info.rate = .ok info ↔
        ∃ rate, writtenRate? (Json.treeOf text.toList).1 = some rate ∧ 0 < rate.toRat)) ∧
    (∀ entry, readAll LedgerEntry.readRecord text = .ok entry → ∀ info, entry.conversion = some info →
      (record info.stated info.rate = .ok info ↔
        ∃ part rate, LedgerEntry.writtenConversion? (Json.treeOf text.toList).1 = some part ∧
          writtenRate? part = some rate ∧ 0 < rate.toRat)) ∧
    (∀ info : ConversionInfo, info.rate.unsignZero = info.rate → ∃ text, readAll readRecord text = .ok info) ∧
    ∀ entry : LedgerEntry, entry.createdAt.Ordinary → (∀ info ∈ entry.conversion, info.rate.unsignZero = info.rate) →
      ∃ text, readAll LedgerEntry.readRecord text = .ok entry := by
  have recordable : ∀ info : ConversionInfo, record info.stated info.rate = .ok info ↔ 0 < info.rate.toRat := by
    intro info
    rw [← Decimal.isPositive_iff]
    exact ⟨fun recorded => (record_eq_ok recorded).1, fun positive => if_pos positive⟩
  refine ⟨fun stated rate => RateTable.exists_record_iff, fun info read => ?_, fun entry read info converted => ?_,
    fun info signed => ⟨info.toRecord.toText, ?_⟩, fun entry created signed => ⟨entry.toRecord.toText, ?_⟩⟩
  · obtain ⟨tree, front, read⟩ := Json.readAll_eq_ok_iff.mp read
    rw [recordable, front, writtenRate?_of_readRecord read]
    simp
  · obtain ⟨tree, front, read⟩ := Json.readAll_eq_ok_iff.mp read
    obtain ⟨part, place, known⟩ := LedgerEntry.writtenConversion?_of_readRecord read converted
    rw [recordable, front, place]
    constructor
    · intro positive
      exact ⟨part, info.rate, rfl, writtenRate?_of_readRecord known, positive⟩
    · rintro ⟨_, rate, ⟨⟩, written, positive⟩
      rw [writtenRate?_of_readRecord known] at written
      rwa [Option.some.inj written]
  · rw [Json.Value.readAll_toText, readRecord_toRecord signed]
  · rw [Json.Value.readAll_toText, LedgerEntry.readRecord_toRecord created signed]

/-- Two cents at no rate, which cannot be recorded. -/
def worthless : ConversionInfo := ⟨⟨2, .eur, by decide, by decide⟩, .zero⟩

def worthlessText : String := "\x7b\"original\":\x7b\"amount\":2,\"currency\":\"EUR\"\x7d,\"rate\":\"0\"\x7d"

theorem readAll_worthless : readAll ConversionInfo.readRecord worthlessText = .ok worthless := by
  decide +kernel

/-- It is read from a text whose rate is not greater than zero, and could not be recorded. -/
theorem ConversionInfo.recordable_iff_written_positive_worthless :
    readAll readRecord worthlessText = .ok worthless ∧ record worthless.stated worthless.rate ≠ .ok worthless ∧
      writtenRate? (Json.treeOf worthlessText.toList).1 = some worthless.rate := by
  have nothing : worthless.rate.toRat = 0 := Decimal.toRat_of_mantissa_eq_zero rfl
  obtain ⟨-, read, -⟩ := recordable_iff_written_positive worthlessText
  have written : writtenRate? (Json.treeOf worthlessText.toList).1 = some worthless.rate := by decide +kernel
  refine ⟨readAll_worthless, fun recorded => ?_, written⟩
  obtain ⟨rate, same, positive⟩ := (read worthless readAll_worthless).mp recorded
  rw [← Option.some.inj (written.symm.trans same), nothing] at positive
  exact lt_irrefl _ positive

/-- So not every conversion that is read has a rate greater than zero. -/
theorem ConversionInfo.not_forall_read_positive :
    ¬∀ (text : String) (info : ConversionInfo), readAll readRecord text = .ok info → 0 < info.rate.toRat := by
  intro always
  have positive := always _ _ readAll_worthless
  rw [← Decimal.isPositive_iff] at positive
  cases positive

end Passbook

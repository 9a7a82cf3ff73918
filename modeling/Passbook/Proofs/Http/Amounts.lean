import Passbook.Http.Body
import Passbook.Http.View
import Passbook.Proofs.Decimal.Writing
import Passbook.Proofs.Money.Major
import Passbook.Proofs.Text.Blank
/-!
# Amounts as they are shown

Amounts of money come back from major units and from their written form.  So what a client is shown of an amount,
its major units, its minor units and its currency, is one amount, and a client that sends the major units and the
currency back asks for exactly that amount.
-/

namespace Passbook

-- Powers are those of natural numbers and integers, whatever else is in scope.
attribute [local instance (2000)] instPowNat

open Http (MovementBody)

/-! ### Texts of decimals -/

/-- There are no blanks in a numeral. -/
theorem Decimal.isBlank_of_mem_text (numeral : Numeral) : ∀ c ∈ numeral.text, Text.isBlank c = false := by
  intro c member
  refine Text.isBlank_of_visible ?_
  rcases isRow_or_mark numeral member with plain | mark
  · exact visible_of_isRow plain
  · have marks : ∀ c ∈ ['.', '+', '-', 'e', 'E'], 0x21 ≤ c.toNat ∧ c.toNat ≤ 0x7E := by simp
    exact marks c mark

/-- So there are none in the written form of a decimal. -/
theorem Decimal.isBlank_of_mem_toText (d : Decimal) : ∀ c ∈ d.toText.toList, Text.isBlank c = false := by
  rw [toList_toText]
  exact isBlank_of_mem_text d.numeral

/-- A code of a currency is read as that currency. -/
theorem Currency.parse_code (currency : Currency) : parse currency.code = .ok currency := by
  cases currency <;> decide

namespace Money

variable {before after : List Char}

/-- An amount of money comes back from its major units. -/
theorem ofMajor_toMajor (money : Money) : ofMajor money.toMajor money.currency = .ok money := by
  have worth : (money.amount : ℚ) = money.toMajor.toRat * 10 ^ money.currency.minorUnits := by
    rw [toRat_toMajor, div_mul_cancel₀ _ (by positivity)]
  rcases ofMajor_cases money.toMajor money.currency with ⟨other, accepted, inCurrency, worth'⟩ | ⟨_, outside⟩
  · have amount : other.amount = money.amount := by
      rw [IsWorth, inCurrency, ← worth] at worth'
      exact_mod_cast worth'
    rw [accepted, eq_of_amount amount inCurrency]
  · exact absurd ⟨money.least_le, money.le_greatest⟩ (outside _ worth)

/-- The major units of an amount of money are written as a numeral for what it is worth. -/
theorem exists_numeral (money : Money) :
    ∃ numeral : Decimal.Numeral, money.toMajor.toText.toList = numeral.text ∧ money.IsWorth numeral.value := by
  refine ⟨money.toMajor.numeral, Decimal.toList_toText _, ?_⟩
  rw [IsWorth, Decimal.value_numeral, toRat_toMajor, div_mul_cancel₀ _ (by positivity)]

/-- The major units of nothing have no sign. -/
theorem unsignZero_toMajor (money : Money) : money.toMajor.unsignZero = money.toMajor := by
  unfold Decimal.unsignZero
  split
  · rename_i nothing
    have zero : money.amount = 0 := Int.natAbs_eq_zero.mp nothing
    refine Decimal.eq_of_parts ?_ rfl rfl
    simp [toMajor, zero]
  · rfl

/-- So it does from their written form, with blanks around it. -/
theorem parseMajor_toText (money : Money) (blank : ∀ c ∈ before ++ after, Text.isBlank c = true) :
    parseMajor (String.ofList (before ++ money.toMajor.toText.toList ++ after)) money.currency = .ok money := by
  have trimmed : Text.trim (String.ofList (before ++ money.toMajor.toText.toList ++ after)) = money.toMajor.toText := by
    rw [Text.trim, String.toList_ofList,
      Text.trimChars_surrounded (fun c member => blank c (List.mem_append_left _ member))
        (fun c member => blank c (List.mem_append_right _ member)),
      Text.trimChars_of_no_blank money.toMajor.isBlank_of_mem_toText, String.ofList_toList]
  have read : parseDecimal (String.ofList (before ++ money.toMajor.toText.toList ++ after)) = .ok money.toMajor := by
    rw [parseDecimal, trimmed, Decimal.parse_toText, unsignZero_toMajor]
  rw [parseMajor, read]
  exact money.ofMajor_toMajor

end Money

/-! ### Amounts in requests -/

namespace Http.MovementBody

/-- The body of a movement that states an amount and its currency, and nothing else. -/
def stating (amount currency : String) : MovementBody := ⟨amount, some currency, none, none, none, none⟩

variable {body : MovementBody} {money : Money}

/-- A currency that is shown is read as that currency. -/
theorem statedCurrency_of_code (currency : body.currency = some money.currency.code) :
    body.statedCurrency = .ok (some money.currency) := by
  rw [statedCurrency, currency]
  simp only [Option.mapM_some, money.currency.parse_code]
  rfl

/-- So is the amount that is shown with it. -/
theorem parseMajor_of_shown (amount : body.amount = money.toMajor.toText) :
    RequestedAmount.parseMajor body.amount (some money.currency) = .ok (.exact money) := by
  have blank : ∀ c ∈ ([] ++ [] : List Char), Text.isBlank c = true := nofun
  have read : Money.parseMajor money.toMajor.toText money.currency = .ok money := by
    simpa using money.parseMajor_toText blank
  rw [RequestedAmount.parseMajor, amount, read]
  rfl

/-- A movement for an amount and a currency that are shown is one for the amount of money they are shown of. -/
theorem amount_of_toRequest {account : AccountId} {request : MovementRequest}
    (amount : body.amount = money.toMajor.toText) (currency : body.currency = some money.currency.code)
    (asked : body.toRequest account = .ok request) : request.amount = .exact money := by
  rw [toRequest, statedCurrency_of_code currency] at asked
  simp only [bind, Except.bind, parseMajor_of_shown amount] at asked
  cases target : body.target with
  | error _ =>
      rw [target] at asked
      cases asked
  | ok target =>
      simp only [target] at asked
      -- Whichever way the channel is found, the amount is the one that was read.
      split at asked <;> split at asked <;> cases asked <;> rfl

/-- Where an amount and its currency are all that is stated, the movement is one within the ledger. -/
theorem toRequest_stating (money : Money) (account : AccountId) :
    (stating money.toMajor.toText money.currency.code).toRequest account =
      .ok (.internal account (.exact money)) := by
  have currency : (stating money.toMajor.toText money.currency.code).statedCurrency = .ok (some money.currency) :=
    statedCurrency_of_code rfl
  have read : RequestedAmount.parseMajor (stating money.toMajor.toText money.currency.code).amount
      (some money.currency) = .ok (.exact money) := parseMajor_of_shown rfl
  rw [toRequest, currency]
  simp only [read, bind, Except.bind]
  rfl

/-- How a body that states an amount and its currency is read. -/
theorem read_stating (amount currency : String) :
    shape.read (.object [(some "amount", .string (some amount)), (some "currency", .string (some currency))] true) =
      .ok (stating amount currency) := by
  rfl

end Http.MovementBody

namespace Money

/-- Amounts of money come back from major units and from their written form, also with blanks around it.  What is
shown of an amount is one number of minor units of one currency, and the request that states it again is for that
amount. -/
theorem shown_is_requested (money : Money) :
    ofMajor money.toMajor money.currency = .ok money ∧
    (∀ before after : List Char, (∀ c ∈ before ++ after, Text.isBlank c = true) →
      parseMajor (String.ofList (before ++ money.toMajor.toText.toList ++ after)) money.currency = .ok money) ∧
    ∃ amount currency : String,
      money.view.member? "amount" = some (.string amount) ∧
      money.view.member? "amount_minor" = some (.integer money.amount) ∧
      money.view.member? "currency" = some (.string currency) ∧
      (∃ numeral : Decimal.Numeral, amount.toList = numeral.text ∧ money.IsWorth numeral.value) ∧
      Currency.parse currency = .ok money.currency ∧
      (∀ (body : MovementBody) account request, body.amount = amount → body.currency = some currency →
        body.toRequest account = .ok request → request.amount = .exact money) ∧
      MovementBody.shape.read (.object
        [(some "amount", .string (some amount)), (some "currency", .string (some currency))] true) =
          .ok (.stating amount currency) ∧
      ∀ account,
        (MovementBody.stating amount currency).toRequest account = .ok (.internal account (.exact money)) := by
  exact ⟨money.ofMajor_toMajor, fun before after => money.parseMajor_toText, money.toMajor.toText,
    money.currency.code, rfl, rfl, rfl, money.exists_numeral, money.currency.parse_code,
    fun body account request => MovementBody.amount_of_toRequest, MovementBody.read_stating _ _,
    MovementBody.toRequest_stating money⟩

def leastInDinars : Money := ⟨-2 ^ 63, .kwd, by decide, by decide⟩

/-- A body that states that amount and names a channel. -/
def leastFromBank : MovementBody :=
  { MovementBody.stating "-9223372036854775.808" "KWD" with source := some "bank" }

theorem shown_is_requested_least :
    leastInDinars.view.member? "amount" = some (.string "-9223372036854775.808") ∧
    parseMajor "\t-9223372036854775.808 " .kwd = .ok leastInDinars ∧
    ∃ request, leastFromBank.toRequest ⟨Uuid.ofNat 1⟩ = .ok request ∧
      request.amount = .exact leastInDinars := by
  have text : leastInDinars.toMajor.toText = "-9223372036854775.808" := by decide +kernel
  have shown : leastInDinars.view.member? "amount" = some (.string "-9223372036854775.808") :=
    congrArg (fun text => some (Json.Value.string text)) text
  have blank : ∀ c ∈ ['\t'] ++ [' '], Text.isBlank c = true := List.all_eq_true.mp rfl
  have asked : leastFromBank.toRequest ⟨Uuid.ofNat 1⟩ =
      .ok ⟨⟨Uuid.ofNat 1⟩, .exact leastInDinars, .externalBank, none⟩ := by decide +kernel
  obtain ⟨_, read, amount, currency, amount_eq, _, currency_eq, _, _, requests, _⟩ :=
    shown_is_requested leastInDinars
  cases amount_eq.symm.trans shown
  cases currency_eq
  refine ⟨shown, ?_, _, asked, requests leastFromBank _ _ rfl rfl asked⟩
  have read' := read _ _ blank
  rw [text] at read'
  exact read'

end Money

end Passbook

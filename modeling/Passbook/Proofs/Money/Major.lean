import Passbook.Movement
import Passbook.Proofs.Decimal.Products
import Passbook.Proofs.Decimal.Reading
import Passbook.Proofs.Service.Movements
/-!
# Major units

The way from decimal major units to minor units does not round: a factor that is a power of ten does not take a
decimal further than the factor itself leads back, and a product with a fraction is refused.  So an amount that
is read from a text is worth what is written there exactly if the reader of decimals did not round.
-/

namespace Passbook

-- Powers are those of natural numbers and integers, whatever else is in scope.
attribute [local instance (2000)] instPowNat

/-! ### Amounts from major units -/

namespace Money

variable {value : Decimal} {currency : Currency} {money : Money}

/-- The amount is exactly so many major units of its currency. -/
def IsWorth (money : Money) (major : ℚ) : Prop :=
  (money.amount : ℚ) = major * 10 ^ money.currency.minorUnits

theorem toRat_toMajor (money : Money) :
    money.toMajor.toRat = money.amount / 10 ^ money.currency.minorUnits := by
  simp only [Decimal.toRat, toMajor, Decimal.signed, decide_eq_true_eq, Nat.cast_natAbs]
  split
  · rename_i less
    rw [abs_of_neg less, Int.cast_neg, neg_div, neg_neg]
  · rename_i notLess
    rw [abs_of_nonneg (Int.not_lt.mp notLess)]

/-- The number of minor units is within the range of an amount. -/
def InRange (amount : ℤ) : Prop := least ≤ amount ∧ amount ≤ greatest

theorem ofMinor?_eq_some_iff {amount : ℤ} :
    ofMinor? amount currency = some money ↔ money.amount = amount ∧ money.currency = currency := by
  unfold ofMinor?
  split
  · cases money
    simp [eq_comm]
  · rename_i outside
    refine iff_of_false (by simp) ?_
    rintro ⟨rfl, -⟩
    exact outside ⟨money.least_le, money.le_greatest⟩

theorem ofMinor?_eq_none_iff {amount : ℤ} :
    ofMinor? amount currency = none ↔ ¬ InRange amount := by
  unfold ofMinor? InRange
  split <;> simp_all

/-- Major units in minor units are not rounded. -/
theorem mul?_minorFactor_toRat {scaled : Decimal} (product : value.mul? (minorFactor currency) = some scaled) :
    scaled.toRat = value.toRat * 10 ^ currency.minorUnits := by
  have short : value.scale + (minorFactor currency).scale ≤ Decimal.shortProductScale :=
    Nat.le_trans value.scale_le (by decide)
  obtain ⟨count, fitted, same, isFitted⟩ := Decimal.fitted_of_mul?_eq_some short product
  have isFitted' :
      Decimal.Fitted value.negative (value.mantissa * 10 ^ currency.minorUnits) value.scale count fitted := by
    cases negative : value.negative <;> rw [negative] at isFitted <;> exact isFitted
  rw [same, isFitted'.toRat_of_zeros]

/-- A number that is far from nothing is beyond the range of an amount. -/
theorem not_inRange_of_lt_abs {n : ℤ} (large : (2 ^ 63 : ℚ) < |(n : ℚ)|) : ¬ InRange n := by
  have large' : (2 : ℤ) ^ 63 < |n| := by exact_mod_cast large
  rintro ⟨atLeast, atMost⟩
  simp only [least, greatest] at atLeast atMost
  rcases lt_abs.mp large' with above | below <;> omega

/-- Major units come to an amount that is worth as much, or they are refused, and no amount is worth as much. -/
theorem ofMajor_cases (value : Decimal) (currency : Currency) :
    (∃ money, ofMajor value currency = .ok money ∧ money.currency = currency ∧ money.IsWorth value.toRat) ∨
    (∃ reason, ofMajor value currency = .error (.invalid reason)) ∧
      ∀ n : ℤ, (n : ℚ) = value.toRat * 10 ^ currency.minorUnits → ¬ InRange n := by
  cases product : value.mul? (minorFactor currency) with
  | none =>
      right
      simp only [ofMajor, product]
      refine ⟨⟨_, rfl⟩, fun n same => not_inRange_of_lt_abs ?_⟩
      have factor : (minorFactor currency).toRat = 10 ^ currency.minorUnits := by
        simp [Decimal.toRat, Decimal.signed, minorFactor]
      rw [same, ← factor]
      exact lt_of_lt_of_le (by norm_num) (Decimal.le_abs_of_mul?_eq_none product)
  | some scaled =>
      have exact := mul?_minorFactor_toRat product
      by_cases whole : scaled.isInteger = true
      · have truncated := Decimal.truncate_of_isInteger whole
        cases fits : ofMinor? scaled.truncate currency with
        | some money =>
            obtain ⟨amount, inCurrency⟩ := ofMinor?_eq_some_iff.mp fits
            left
            refine ⟨money, by simp only [ofMajor, product, whole, if_true, fits], inCurrency, ?_⟩
            rw [IsWorth, amount, inCurrency, truncated, exact]
        | none =>
            right
            refine ⟨⟨_, by simp only [ofMajor, product, whole, if_true, fits]; rfl⟩, fun n same => ?_⟩
            rw [← exact, ← truncated, Int.cast_inj] at same
            rw [same]
            exact ofMinor?_eq_none_iff.mp fits
      · right
        refine ⟨⟨_, by simp only [ofMajor, product, whole]; rfl⟩, fun n same => ?_⟩
        exact absurd (Decimal.isInteger_of_toRat_eq (exact.trans same.symm)) whole

/-- Major units that come to an amount are what it is worth. -/
theorem isWorth_of_ofMajor (accepted : ofMajor value currency = .ok money) : money.IsWorth value.toRat := by
  rcases ofMajor_cases value currency with ⟨_, accepted', _, worth⟩ | ⟨⟨_, refused⟩, _⟩
  · cases accepted.symm.trans accepted'
    exact worth
  · cases accepted.symm.trans refused

/-- Major units that come to an amount are more than nothing if the amount is. -/
theorem isPositive_of_ofMajor (accepted : ofMajor value currency = .ok money) :
    money.isPositive = value.isPositive := by
  have worth := isWorth_of_ofMajor accepted
  have same : (0 : ℚ) < money.amount ↔ 0 < value.toRat := by
    rw [worth, mul_pos_iff_of_pos_right (by positivity)]
  rw [Bool.eq_iff_iff, Decimal.isPositive_iff, ← same, Int.cast_pos, isPositive, decide_eq_true_iff]

/-- An amount is worth one number only. -/
theorem IsWorth.iff_eq {major : ℚ} (worth : money.IsWorth major) (major' : ℚ) :
    money.IsWorth major' ↔ major = major' := by
  constructor
  · intro worth'
    exact mul_right_cancel₀ (by positivity) (worth.symm.trans worth')
  · rintro rfl
    exact worth

/-- Major units come to an amount of so many minor units exactly if they are worth it and it is in range; all
others are refused as not acceptable.  The product with the factor is never rounded, and more than nothing does not
come to nothing or less. -/
theorem ofMajor_exact_or_refused (value : Decimal) (currency : Currency) :
    (∀ n : ℤ, (∃ money, ofMajor value currency = .ok money ∧ money.amount = n ∧ money.currency = currency) ↔
      value.toRat * 10 ^ currency.minorUnits = n ∧ -2 ^ 63 ≤ n ∧ n ≤ 2 ^ 63 - 1) ∧
    (∀ money, ofMajor value currency = .ok money → money.currency = currency) ∧
    (∀ error, ofMajor value currency = .error error → error.kind = "validation_error") ∧
    (∀ scaled, value.mul? (minorFactor currency) = some scaled →
      scaled.toRat = value.toRat * 10 ^ currency.minorUnits) ∧
    (0 < value.toRat → ∀ money, ofMajor value currency = .ok money → 0 < money.amount) := by
  refine ⟨fun n => ?_, fun money => ofMajor_eq_ok, fun error failed => ?_, fun scaled => mul?_minorFactor_toRat,
    fun positive money accepted => ?_⟩
  · constructor
    · rintro ⟨money, accepted, rfl, rfl⟩
      exact ⟨(isWorth_of_ofMajor accepted).symm, money.least_le, money.le_greatest⟩
    · rintro ⟨same, inRange⟩
      rcases ofMajor_cases value currency with ⟨money, accepted, inCurrency, worth⟩ | ⟨_, outside⟩
      · refine ⟨money, accepted, ?_, inCurrency⟩
        rw [IsWorth, inCurrency, same] at worth
        exact_mod_cast worth
      · exact absurd inRange (outside n same.symm)
  · rcases ofMajor_cases value currency with ⟨money, accepted, _⟩ | ⟨⟨reason, refused⟩, _⟩
    · cases failed.symm.trans accepted
    · cases failed.symm.trans refused
      rfl
  · have worth := isWorth_of_ofMajor accepted
    have amount : (0 : ℚ) < money.amount := by
      rw [worth]
      positivity
    exact_mod_cast amount

/-- The least amount with eight zeros behind its last cent, and a cent with as many decimals as there are. -/
theorem ofMajor_exact_or_refused_least :
    (∃ money, ofMajor ⟨true, 922337203685477580800000000, 10, by decide, by decide⟩ .usd = .ok money ∧
      money.amount = -2 ^ 63 ∧ money.currency = .usd) ∧
    0 < (⟨false, 10 ^ 26, 28, by decide, by decide⟩ : Decimal).toRat ∧
    ∃ money, ofMajor ⟨false, 10 ^ 26, 28, by decide, by decide⟩ .usd = .ok money ∧ 0 < money.amount := by
  have least : (⟨true, 922337203685477580800000000, 10, by decide, by decide⟩ : Decimal).toRat * 10 ^ 2
      = (-2 ^ 63 : ℤ) := by
    norm_num [Decimal.toRat, Decimal.signed]
  have cent : 0 < (⟨false, 10 ^ 26, 28, by decide, by decide⟩ : Decimal).toRat := by
    norm_num [Decimal.toRat, Decimal.signed]
  have accepted : ofMajor ⟨false, 10 ^ 26, 28, by decide, by decide⟩ .usd =
      .ok ⟨1, .usd, by decide, by decide⟩ := by decide +kernel
  exact ⟨((ofMajor_exact_or_refused _ .usd).1 (-2 ^ 63)).mpr ⟨least, by norm_num, by norm_num⟩, cent, _, accepted,
    (ofMajor_exact_or_refused _ .usd).2.2.2.2 cent _ accepted⟩

end Money

/-! ### Amounts from texts -/

namespace Decimal.Numeral

/-- Decimals stand for the number that is written and for the one in front of its exponent. -/
def IsExact (numeral : Numeral) : Prop := Representable numeral.base ∧ Representable numeral.value

end Decimal.Numeral

namespace RequestedAmount

open Decimal

variable {text : String} {numeral : Numeral} {currency : Currency} {money : Money}

theorem parseDecimal_eq_ok {value : Decimal} (read : Money.parseDecimal text = .ok value) :
    Decimal.parse (Text.trim text) = .ok value := by
  unfold Money.parseDecimal at read
  split at read
  · rename_i done
    cases read
    exact done
  · cases read

/-- An amount that is read in a currency is worth what is written exactly if nothing was rounded in reading. -/
theorem isWorth_value_iff (spelled : (Text.trim text).toList = numeral.text)
    (read : Money.parseMajor text currency = .ok money) :
    money.currency = currency ∧ (money.IsWorth numeral.value ↔ numeral.IsExact) := by
  unfold Money.parseMajor at read
  cases parsed : Money.parseDecimal text with
  | error e =>
      rw [parsed] at read
      cases read
  | ok value =>
      rw [parsed] at read
      refine ⟨Money.ofMajor_eq_ok read, ?_⟩
      rw [(Money.isWorth_of_ofMajor read).iff_eq]
      exact toRat_eq_value_iff spelled (parseDecimal_eq_ok parsed)

/-- What is asked for in a named currency, or in that of an account, comes to an amount that is read. -/
theorem parseMajor_of_resolve {named : Option Currency} {requested : RequestedAmount}
    (read : parseMajor text named = .ok requested) (resolved : requested.resolve currency = .ok money) :
    Money.parseMajor text (named.getD currency) = .ok money := by
  cases named with
  | some named =>
      cases found : Money.parseMajor text named with
      | error e =>
          simp only [parseMajor, found] at read
          cases read
      | ok money' =>
          simp only [parseMajor, found] at read
          cases read
          cases resolved
          exact found
  | none =>
      cases found : Money.parseDecimal text with
      | error e =>
          simp only [parseMajor, found] at read
          cases read
      | ok value =>
          simp only [parseMajor, found] at read
          cases read
          simp only [Money.parseMajor, Option.getD_none, found, bind, Except.bind]
          exact resolved

/-- An amount that is read from a text is in the currency that was asked for, and it is exactly what is written
if and only if decimals stand for the number that is written and for the one in front of its exponent.  The same
holds for an amount that is requested, once it is resolved. -/
theorem exact_iff_representable (spelled : (Text.trim text).toList = numeral.text) (currency : Currency) :
    (∀ money, Money.parseMajor text currency = .ok money →
      money.currency = currency ∧ (money.IsWorth numeral.value ↔ numeral.IsExact)) ∧
    ∀ named requested money, parseMajor text named = .ok requested →
      requested.resolve currency = .ok money →
      money.currency = named.getD currency ∧ (money.IsWorth numeral.value ↔ numeral.IsExact) :=
  ⟨fun _ read => isWorth_value_iff spelled read,
    fun _ _ _ read resolved => isWorth_value_iff spelled (parseMajor_of_resolve read resolved)⟩

/-- Twelve and a half, with the point moved to the right by one place. -/
def shifted : Numeral where
  sign := .none
  whole := ['1', '2']
  fraction := some ['5']
  exponent := some
    { mark := 'e', minus := false, plus := false, digits := ['1'], isMark := rfl,
      plain := List.all_eq_true.mp rfl }
  plain := List.all_eq_true.mp rfl
  plain' := List.all_eq_true.mp rfl

theorem exact_iff_representable_shifted :
    (Text.trim " 12.5e1 ").toList = shifted.text ∧
      Money.parseMajor " 12.5e1 " .usd = .ok ⟨12500, .usd, by decide, by decide⟩ ∧
      ((⟨12500, .usd, by decide, by decide⟩ : Money).IsWorth shifted.value ↔ shifted.IsExact) ∧
      (parseMajor " 12.5e1 " none >>= fun requested => requested.resolve .jpy) =
        .ok ⟨125, .jpy, by decide, by decide⟩ ∧
      ((⟨125, .jpy, by decide, by decide⟩ : Money).IsWorth shifted.value ↔ shifted.IsExact) := by
  have spelled : (Text.trim " 12.5e1 ").toList = shifted.text := by decide +kernel
  have inDollars : Money.parseMajor " 12.5e1 " .usd = .ok ⟨12500, .usd, by decide, by decide⟩ := by
    decide +kernel
  have read : parseMajor " 12.5e1 " none = .ok (.accountCurrency ⟨false, 125, 0, by decide, by decide⟩) := by
    decide +kernel
  have inYen : (accountCurrency ⟨false, 125, 0, by decide, by decide⟩).resolve .jpy =
      .ok ⟨125, .jpy, by decide, by decide⟩ := by decide +kernel
  refine ⟨spelled, inDollars, ((exact_iff_representable spelled .usd).1 _ inDollars).2, ?_,
    ((exact_iff_representable spelled .jpy).2 none _ _ read inYen).2⟩
  rw [read]
  exact inYen

/-- One, with a last digit twenty-nine places behind the point. -/
def hairOverOne : Numeral where
  sign := .none
  whole := ['1']
  fraction := some (List.replicate 28 '0' ++ ['1'])
  exponent := none
  plain := List.all_eq_true.mp rfl
  plain' := List.all_eq_true.mp rfl

/-- Not every amount that is read is what is written: a fraction of a cent that begins behind the last decimal
is not seen. -/
theorem not_forall_exact :
    ¬ ∀ (text : String) (numeral : Numeral) (currency : Currency) (money : Money),
      (Text.trim text).toList = numeral.text → Money.parseMajor text currency = .ok money →
      money.IsWorth numeral.value ∧ money.currency = currency := by
  intro always
  have spelled : (Text.trim "1.00000000000000000000000000001").toList = hairOverOne.text := by decide +kernel
  have read : Money.parseMajor "1.00000000000000000000000000001" .usd =
      .ok ⟨100, .usd, by decide, by decide⟩ := by decide +kernel
  have worth := (always _ _ _ _ spelled read).1
  have written : hairOverOne.value = (10 ^ 29 + 1) / 10 ^ 29 := by
    have digits : appendRow 0 (hairOverOne.whole ++ hairOverOne.fraction.getD []) = 10 ^ 29 + 1 := by
      decide +kernel
    have places : digitCount (hairOverOne.fraction.getD []) = 29 := by decide +kernel
    have unsigned : decide (hairOverOne.sign = .minus) = false := by decide +kernel
    simp only [Numeral.value, Numeral.base, hairOverOne] at digits places unsigned ⊢
    rw [digits, places, unsigned]
    norm_num [signed]
  rw [Money.IsWorth, written] at worth
  norm_num [Currency.minorUnits] at worth

end RequestedAmount

end Passbook

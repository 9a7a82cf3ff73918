import Passbook.Proofs.Decimal.Reciprocals
import Passbook.Proofs.Money.Major
import Passbook.Rates
/-!
# Conversions

An amount is multiplied by a rate and rounded to minor units.  The product is rounded before, to the decimals it
has room for, which makes a difference only where that takes it up to half a minor unit; a rate that is the
reciprocal of another takes the amount less than a minor unit away from where it should be.
-/

namespace Passbook

open Decimal

-- Powers are those of natural numbers and integers, whatever else is in scope.
attribute [local instance (2000)] instPowNat

/-! ### Values in another currency -/

theorem Currency.minorUnits_le (currency : Currency) : currency.minorUnits ≤ 3 := by
  cases currency <;> decide

namespace Money

/-- What an amount comes to at a rate, in minor units of the target and before it is rounded. -/
def valueAt (money : Money) (rate : ℚ) (target : Currency) : ℚ :=
  money.amount / 10 ^ money.currency.minorUnits * rate * 10 ^ target.minorUnits

variable {money : Money} {rate : Decimal} {target : Currency}

theorem valueAt_toRat :
    money.valueAt rate.toRat target = money.toMajor.toRat * rate.toRat * 10 ^ target.minorUnits := by
  rw [valueAt, toRat_toMajor]

theorem scale_toMajor_add_le : money.toMajor.scale + rate.scale ≤ shortProductScale := by
  have few := money.currency.minorUnits_le
  have small := rate.scale_le
  simp only [toMajor, maxScale, shortProductScale] at small ⊢
  omega

/-- Major units that are a whole number of minor units come to that amount if it is in range. -/
theorem ofMajor_of_eq {value : Decimal} {n : ℤ} (whole : value.toRat * 10 ^ target.minorUnits = n) :
    (∃ money, ofMajor value target = .ok money ∧ ofMinor? n target = some money) ∨
      (∃ error, ofMajor value target = .error error) ∧ ofMinor? n target = none := by
  rcases ofMajor_cases value target with ⟨money, accepted, inCurrency, worth⟩ | ⟨⟨reason, refused⟩, outside⟩
  · refine .inl ⟨money, accepted, ofMinor?_eq_some_iff.mpr ⟨?_, inCurrency⟩⟩
    rw [IsWorth, inCurrency, whole] at worth
    exact_mod_cast worth
  · exact .inr ⟨⟨_, refused⟩, ofMinor?_eq_none_iff.mpr (outside n whole.symm)⟩

end Money

/-- A number of minor units as the outcome of a conversion, if it is in range. -/
def Quote.offer (amount : ℤ) (target : Currency) (rate : Decimal) : Except ConversionError Quote :=
  match Money.ofMinor? amount target with
  | some converted => .ok ⟨converted, rate⟩
  | none => .error .outOfRange

namespace Quote

variable {amount amount' : ℤ} {target : Currency} {rate : Decimal} {quote : Quote}

theorem offer_of_not_inRange (outside : ¬ Money.InRange amount) : offer amount target rate = .error .outOfRange := by
  rw [offer, Money.ofMinor?_eq_none_iff.mpr outside]

theorem offer_eq_ok (offered : offer amount target rate = .ok quote) :
    quote.converted.amount = amount ∧ quote.converted.currency = target ∧ quote.rate = rate := by
  unfold offer at offered
  split at offered
  · rename_i converted fits
    cases offered
    obtain ⟨same, inCurrency⟩ := Money.ofMinor?_eq_some_iff.mp fits
    exact ⟨same, inCurrency, rfl⟩
  · cases offered

theorem exists_offer (inRange : Money.InRange amount) : ∃ quote, offer amount target rate = .ok quote := by
  unfold offer
  split
  · exact ⟨_, rfl⟩
  · rename_i outside
    exact absurd inRange (Money.ofMinor?_eq_none_iff.mp outside)

/-- An amount in range is offered by no other number. -/
theorem offer_inj (inRange : Money.InRange amount) (same : offer amount' target rate = offer amount target rate) :
    amount' = amount := by
  obtain ⟨quote, offered⟩ : ∃ quote, offer amount target rate = .ok quote := exists_offer inRange
  exact (offer_eq_ok (same.trans offered)).1.symm.trans (offer_eq_ok offered).1

end Quote

namespace RateTable

variable {table : RateTable} {money : Money} {target : Currency} {rate : Decimal} {quote : Quote}

/-! ### Conversion at a rate -/

/-- A conversion at a rate offers the product, rounded to minor units; without a product there is no offer. -/
theorem convert_cases (rated : table.rate? ⟨money.currency, target⟩ = some rate) :
    (∃ product, money.toMajor.mul? rate = some product ∧
      table.convert money target = Quote.offer (roundAway (product.toRat * 10 ^ target.minorUnits)) target rate) ∨
    money.toMajor.mul? rate = none ∧ table.convert money target = .error .outOfRange := by
  cases multiplied : money.toMajor.mul? rate with
  | none => exact .inr ⟨rfl, by simp only [convert, rated, multiplied]⟩
  | some product =>
      refine .inl ⟨product, rfl, ?_⟩
      have within : target.minorUnits ≤ maxScale := Nat.le_trans target.minorUnits_le (by decide)
      simp only [convert, rated, multiplied, Quote.offer]
      rcases Money.ofMajor_of_eq (roundTo_mul_pow product within) with
        ⟨converted, accepted, fits⟩ | ⟨⟨error, refused⟩, outside⟩
      · rw [accepted, fits]
      · rw [refused, outside]

/-- What is far out of range stays so when it is rounded. -/
theorem not_inRange_roundAway {number : ℚ} (large : 2 ^ 64 ≤ |number|) :
    ¬ Money.InRange (roundAway number) := by
  refine Money.not_inRange_of_lt_abs ?_
  have near := abs_roundAway_sub_le number
  have triangle := abs_sub_abs_le_abs_sub number (roundAway number)
  rw [abs_sub_comm] at triangle
  linarith

/-- The product of an amount with a rate has been rounded up to half a minor unit, to which it does not come. -/
def LiftsToHalf (money : Money) (rate : Decimal) (target : Currency) : Prop :=
  ∃ product, money.toMajor.mul? rate = some product ∧
    LiftedToHalf |money.valueAt rate.toRat target| |product.toRat * 10 ^ target.minorUnits|

/-- Rounding a product again to minor units is rounding it once, but for a product that has been lifted to a half;
that one comes to one minor unit too many. -/
theorem roundAway_product_cases (target : Currency) {product : Decimal}
    (multiplied : money.toMajor.mul? rate = some product) :
    (¬ Money.InRange (roundAway (money.valueAt rate.toRat target)) ∧
      ¬ Money.InRange (roundAway (product.toRat * 10 ^ target.minorUnits))) ∨
    (¬ LiftsToHalf money rate target ∧
      roundAway (product.toRat * 10 ^ target.minorUnits) = roundAway (money.valueAt rate.toRat target)) ∨
    (LiftsToHalf money rate target ∧
      |roundAway (product.toRat * 10 ^ target.minorUnits)| = |roundAway (money.valueAt rate.toRat target)| + 1) := by
  have lifts_iff : LiftsToHalf money rate target ↔
      LiftedToHalf |money.valueAt rate.toRat target| |product.toRat * 10 ^ target.minorUnits| := by
    simp only [LiftsToHalf, multiplied, Option.some.injEq, exists_eq_left']
  have fewPlaces : target.minorUnits < maxScale := Nat.lt_of_le_of_lt target.minorUnits_le (by decide)
  obtain ⟨negative, exact, rounded, nonneg, nonneg', exact_eq, rounded_eq, outcome⟩ :=
    keepsHalves_or_large Money.scale_toMajor_add_le multiplied fewPlaces
  rw [lifts_iff, Money.valueAt_toRat, exact_eq, rounded_eq, abs_signed _ nonneg, abs_signed _ nonneg']
  rcases outcome with keeps | ⟨large, large'⟩
  · right
    by_cases lifted : LiftedToHalf exact rounded
    · refine .inr ⟨lifted, ?_⟩
      rw [abs_roundAway_signed _ nonneg, abs_roundAway_signed _ nonneg',
        keeps.round_eq_round_add_one nonneg nonneg' lifted]
    · refine .inl ⟨lifted, ?_⟩
      rw [roundAway_signed _ nonneg, roundAway_signed _ nonneg', keeps.round_eq_round nonneg nonneg' lifted]
  · left
    constructor <;> refine not_inRange_roundAway ?_
    · rwa [abs_signed _ nonneg]
    · rwa [abs_signed _ nonneg']

/-! ### Rates that are set -/

theorem rate?_of_setting (distinct : money.currency ≠ target)
    (configured : table.setting? ⟨money.currency, target⟩ = some rate) :
    table.rate? ⟨money.currency, target⟩ = some rate := by
  simp only [rate?, if_neg distinct, configured]

/-- A number that is further from nothing by one is out of range as well. -/
theorem not_inRange_of_further {n m : ℤ} (further : |m| = |n| + 1) (outside : ¬ Money.InRange n) :
    ¬ Money.InRange m := by
  simp only [Money.InRange, Money.least, Money.greatest] at outside ⊢
  rcases abs_cases n with ⟨same, _⟩ | ⟨same, _⟩ <;> rcases abs_cases m with ⟨same', _⟩ | ⟨same', _⟩ <;> omega

/-- A product that fits as it is is not lifted. -/
theorem not_liftsToHalf_of_fits (fits : money.toMajor.mantissa * rate.mantissa < mantissaBound)
    (short : money.toMajor.scale + rate.scale ≤ maxScale) : ¬ LiftsToHalf money rate target := by
  rintro ⟨product, multiplied, less, -⟩
  rw [toRat_of_mul?_of_fits fits short multiplied, Money.valueAt_toRat] at less
  exact lt_irrefl _ less

/-- A conversion at a rate that is set is refused where the amount is out of range, or it offers the amount after one
rounding, or, if the product has been lifted, one minor unit more than that. -/
theorem convert_of_setting (distinct : money.currency ≠ target)
    (configured : table.setting? ⟨money.currency, target⟩ = some rate) :
    (¬ Money.InRange (roundAway (money.valueAt rate.toRat target)) ∧
      table.convert money target = .error .outOfRange) ∨
    (¬ LiftsToHalf money rate target ∧
      table.convert money target = Quote.offer (roundAway (money.valueAt rate.toRat target)) target rate) ∨
    (LiftsToHalf money rate target ∧
      ∃ n, |n| = |roundAway (money.valueAt rate.toRat target)| + 1 ∧
        table.convert money target = Quote.offer n target rate) := by
  rcases convert_cases (rate?_of_setting distinct configured) with
    ⟨product, multiplied, converted⟩ | ⟨noProduct, refused⟩
  · rw [converted]
    rcases roundAway_product_cases target multiplied with ⟨outside, outside'⟩ | ⟨steady, same⟩ | ⟨lifts, further⟩
    · exact .inl ⟨outside, Quote.offer_of_not_inRange outside'⟩
    · exact .inr (.inl ⟨steady, by rw [same]⟩)
    · exact .inr (.inr ⟨lifts, _, further, rfl⟩)
  · refine .inl ⟨not_inRange_roundAway ?_, refused⟩
    rw [Money.valueAt_toRat, abs_mul, abs_of_pos (by positivity : (0 : ℚ) < 10 ^ target.minorUnits)]
    have one : (1 : ℚ) ≤ 10 ^ target.minorUnits := one_le_pow₀ (by norm_num)
    exact (le_abs_of_mul?_eq_none noProduct).trans (le_mul_of_one_le_right (abs_nonneg _) one)

/-- At a rate that is set an amount is converted with one exact rounding, half away from zero, and refused as out of
range where it is that, exactly if its product with the rate is not lifted to half a minor unit; a product that is
lifted comes to one minor unit too many.  No product that fits as it is is lifted. -/
theorem convert_rounds_once_iff (distinct : money.currency ≠ target)
    (configured : table.setting? ⟨money.currency, target⟩ = some rate) :
    (table.convert money target = Quote.offer (roundAway (money.valueAt rate.toRat target)) target rate ↔
      ¬ (Money.InRange (roundAway (money.valueAt rate.toRat target)) ∧ LiftsToHalf money rate target)) ∧
    (LiftsToHalf money rate target → ∀ quote, table.convert money target = .ok quote →
      |quote.converted.amount| = |roundAway (money.valueAt rate.toRat target)| + 1) ∧
    (money.toMajor.mantissa * rate.mantissa < mantissaBound → money.toMajor.scale + rate.scale ≤ maxScale →
      table.convert money target = Quote.offer (roundAway (money.valueAt rate.toRat target)) target rate) := by
  rcases convert_of_setting distinct configured with
    ⟨outside, refused⟩ | ⟨steady, once⟩ | ⟨lifts, n, further, more⟩
  · rw [refused, Quote.offer_of_not_inRange outside]
    refine ⟨iff_of_true rfl fun both => outside both.1, fun _ quote offered => ?_, fun _ _ => rfl⟩
    cases offered
  · exact ⟨iff_of_true once fun both => steady both.2, fun lifts => absurd lifts steady, fun _ _ => once⟩
  · refine ⟨?_, fun _ quote offered => ?_, fun fits short => absurd lifts (not_liftsToHalf_of_fits fits short)⟩
    · rw [more]
      by_cases inRange : Money.InRange (roundAway (money.valueAt rate.toRat target))
      · refine iff_of_false (fun same => ?_) fun neither => neither ⟨inRange, lifts⟩
        rw [Quote.offer_inj inRange same] at further
        omega
      · rw [Quote.offer_of_not_inRange inRange,
          Quote.offer_of_not_inRange (not_inRange_of_further further inRange)]
        exact iff_of_true rfl fun both => inRange both.1
    · rw [(Quote.offer_eq_ok (more.symm.trans offered)).1]
      exact further

/-- Three and a third, to as many decimals as there are. -/
def threeAndAThird : Decimal := ⟨false, 33333333333333333333333333333, 28, by decide, by decide⟩

def yenPerDollar (rate : Decimal) : RateTable := ⟨[(⟨.usd, .jpy⟩, rate)]⟩

def fifteenCents : Money := ⟨15, .usd, by decide, by decide⟩

/-- Fifteen cents are less than half a yen. -/
theorem roundAway_fifteenCents : roundAway (fifteenCents.valueAt threeAndAThird.toRat .jpy) = 0 := by
  have value : fifteenCents.valueAt threeAndAThird.toRat .jpy = (5 * 10 ^ 29 - 5) / 10 ^ 30 := by
    norm_num [Money.valueAt, fifteenCents, threeAndAThird, toRat, signed, Currency.minorUnits]
  rw [value, roundAway, if_neg (by norm_num), round_eq, Int.floor_eq_iff]
  norm_num

theorem liftsToHalf_fifteenCents : LiftsToHalf fifteenCents threeAndAThird .jpy := by
  refine ⟨⟨false, 5 * 10 ^ 27, 28, by decide, by decide⟩, by decide, ?_, 0, ?_⟩
  · norm_num [Money.valueAt, fifteenCents, threeAndAThird, toRat, signed, Currency.minorUnits]
  · norm_num [toRat, signed, Currency.minorUnits]

/-- Fifteen cents come to a yen, since three and a third times fifteen is rounded to a half first; a rate with two
decimals lifts nothing. -/
theorem convert_rounds_once_iff_fifteenCents :
    (fifteenCents.currency ≠ .jpy ∧ (yenPerDollar threeAndAThird).setting? ⟨.usd, .jpy⟩ = some threeAndAThird ∧
      LiftsToHalf fifteenCents threeAndAThird .jpy ∧
      (yenPerDollar threeAndAThird).convert fifteenCents .jpy =
        .ok ⟨⟨1, .jpy, by decide, by decide⟩, threeAndAThird⟩ ∧
      |(1 : ℤ)| = |roundAway (fifteenCents.valueAt threeAndAThird.toRat .jpy)| + 1) ∧
    (yenPerDollar ⟨false, 15025, 2, by decide, by decide⟩).convert fifteenCents .jpy =
      Quote.offer (roundAway (fifteenCents.valueAt (toRat ⟨false, 15025, 2, by decide, by decide⟩) .jpy)) .jpy
        ⟨false, 15025, 2, by decide, by decide⟩ := by
  have distinct : fifteenCents.currency ≠ .jpy := by decide
  have configured : (yenPerDollar threeAndAThird).setting? ⟨.usd, .jpy⟩ = some threeAndAThird := by
    decide +kernel
  have converted : (yenPerDollar threeAndAThird).convert fifteenCents .jpy =
      .ok ⟨⟨1, .jpy, by decide, by decide⟩, threeAndAThird⟩ := by decide +kernel
  exact ⟨⟨distinct, configured, liftsToHalf_fifteenCents, converted,
    (convert_rounds_once_iff distinct configured).2.1 liftsToHalf_fifteenCents _ converted⟩,
    (convert_rounds_once_iff distinct (by decide +kernel)).2.2 (by decide +kernel) (by decide +kernel)⟩

/-- Not every amount is converted with one exact rounding: one that comes to less than half a minor unit can be
counted as a whole one. -/
theorem not_forall_rounds_once :
    ¬ ∀ (text : String) (table : RateTable) (money : Money) (target : Currency) (rate : Decimal),
      parse text = .ok table → money.currency ≠ target →
      table.setting? ⟨money.currency, target⟩ = some rate →
      table.convert money target = Quote.offer (roundAway (money.valueAt rate.toRat target)) target rate := by
  intro always
  have read : parse "USD:JPY=3.3333333333333333333333333333" = .ok (yenPerDollar threeAndAThird) := by
    decide +kernel
  have converted : (yenPerDollar threeAndAThird).convert fifteenCents .jpy =
      .ok ⟨⟨1, .jpy, by decide, by decide⟩, threeAndAThird⟩ := by decide +kernel
  have once := always _ _ fifteenCents .jpy threeAndAThird read (by decide) (by decide +kernel)
  rw [roundAway_fifteenCents, converted] at once
  have amount := (Quote.offer_eq_ok once.symm).1
  cases amount

/-! ### Rates that are derived -/

theorem rate?_of_opposite (distinct : money.currency ≠ target)
    (unset : table.setting? ⟨money.currency, target⟩ = none)
    (opposite : table.setting? ⟨target, money.currency⟩ = some rate) :
    table.rate? ⟨money.currency, target⟩ = rate.reciprocal? := by
  simp only [rate?, if_neg distinct, unset, opposite, Option.bind_some]

theorem abs_amount_le (money : Money) : |(money.amount : ℚ)| ≤ 2 ^ 63 := by
  have atLeast := money.least_le
  have atMost := money.le_greatest
  simp only [Money.least, Money.greatest] at atLeast atMost
  have bound : |money.amount| ≤ 2 ^ 63 := abs_le.mpr ⟨by omega, by omega⟩
  exact_mod_cast bound

/-- An amount is no more major units than it has minor units. -/
theorem abs_toRat_toMajor_le (money : Money) : |money.toMajor.toRat| ≤ 2 ^ 63 := by
  rw [Money.toRat_toMajor, abs_div, abs_of_pos (by positivity : (0 : ℚ) < 10 ^ money.currency.minorUnits)]
  exact (div_le_self (abs_nonneg _) (one_le_pow₀ (by norm_num))).trans (abs_amount_le money)

/-- An error in major units, of a part in `10 ^ 28`, is as small a part in minor units. -/
theorem abs_scaled_sub_le {number exact most : ℚ} (currency : Currency)
    (near : |number - exact| ≤ (most + |exact|) / 10 ^ 28) (nonneg : 0 ≤ most) :
    |number * 10 ^ currency.minorUnits - exact * 10 ^ currency.minorUnits| ≤
      (most * 1000 + |exact * 10 ^ currency.minorUnits|) / 10 ^ 28 := by
  have positive : (0 : ℚ) < 10 ^ currency.minorUnits := by positivity
  have few : (10 : ℚ) ^ currency.minorUnits ≤ 1000 := by
    have powers : (10 : ℚ) ^ currency.minorUnits ≤ 10 ^ 3 := pow_le_pow_right₀ (by norm_num) currency.minorUnits_le
    linarith
  rw [← sub_mul, abs_mul, abs_mul, abs_of_pos positive]
  calc |number - exact| * 10 ^ currency.minorUnits
      ≤ (most + |exact|) / 10 ^ 28 * 10 ^ currency.minorUnits := mul_le_mul_of_nonneg_right near positive.le
    _ = (most * 10 ^ currency.minorUnits + |exact| * 10 ^ currency.minorUnits) / 10 ^ 28 := by ring
    _ ≤ (most * 1000 + |exact| * 10 ^ currency.minorUnits) / 10 ^ 28 := by
      gcongr

/-- Three roundings, of which the first two are by parts in `10 ^ 28`, stay within one of an amount in range. -/
theorem abs_sub_lt_one {amount rounded product exact : ℚ} (inRange : |amount| ≤ 2 ^ 63)
    (last : |amount - rounded| ≤ 1 / 2) (second : |rounded - product| ≤ (1 * 1000 + |product|) / 10 ^ 28)
    (first : |product - exact| ≤ (2 ^ 63 * 1000 + |exact|) / 10 ^ 28) : |amount - exact| < 1 := by
  have small : |rounded| ≤ 2 ^ 63 + 1 / 2 := by
    linarith [abs_sub_abs_le_abs_sub rounded amount, abs_sub_comm amount rounded]
  have small' : |product| ≤ 2 ^ 64 := by
    linarith [abs_sub_abs_le_abs_sub product rounded, abs_sub_comm rounded product]
  have small'' : |exact| ≤ 2 ^ 65 := by
    linarith [abs_sub_abs_le_abs_sub exact product, abs_sub_comm product exact]
  calc |amount - exact| ≤ |amount - rounded| + |rounded - exact| := abs_sub_le _ _ _
    _ ≤ |amount - rounded| + (|rounded - product| + |product - exact|) := by
      gcongr
      exact abs_sub_le _ _ _
    _ < 1 := by linarith

/-- Where only the opposite rate is set, what an amount is converted to is less than one minor unit away from the
amount divided by that rate. -/
theorem convert_inverse_near (distinct : money.currency ≠ target)
    (opposite : table.setting? ⟨target, money.currency⟩ = some rate)
    (unset : table.setting? ⟨money.currency, target⟩ = none)
    (converted : table.convert money target = .ok quote) :
    quote.converted.currency = target ∧
      |(quote.converted.amount : ℚ)
        - money.amount / 10 ^ money.currency.minorUnits / rate.toRat * 10 ^ target.minorUnits| < 1 := by
  have rated := rate?_of_opposite distinct unset opposite
  cases inverted : rate.reciprocal? with
  | none =>
      rw [inverted] at rated
      simp only [convert, rated] at converted
      cases converted
  | some inverse =>
      rw [inverted] at rated
      rcases convert_cases rated with ⟨product, multiplied, offered⟩ | ⟨_, refused⟩
      · obtain ⟨amount, inCurrency, -⟩ := Quote.offer_eq_ok (offered.symm.trans converted)
        refine ⟨inCurrency, ?_⟩
        have first : |money.toMajor.toRat * inverse.toRat - money.toMajor.toRat * rate.toRat⁻¹| ≤
            (2 ^ 63 + |money.toMajor.toRat * rate.toRat⁻¹|) / 10 ^ 28 := by
          have near := abs_reciprocal?_sub_le inverted
          have few := abs_toRat_toMajor_le money
          rw [← mul_sub, abs_mul, abs_mul]
          calc |money.toMajor.toRat| * |inverse.toRat - rate.toRat⁻¹|
              ≤ |money.toMajor.toRat| * ((1 + |rate.toRat⁻¹|) / 10 ^ 28) :=
                mul_le_mul_of_nonneg_left near (abs_nonneg _)
            _ = (|money.toMajor.toRat| + |money.toMajor.toRat| * |rate.toRat⁻¹|) / 10 ^ 28 := by ring
            _ ≤ (2 ^ 63 + |money.toMajor.toRat| * |rate.toRat⁻¹|) / 10 ^ 28 := by gcongr
        have second := abs_mul?_sub_le Money.scale_toMajor_add_le multiplied
        rw [← Money.toRat_toMajor, div_eq_mul_inv]
        refine abs_sub_lt_one (abs_amount_le _) ?_ (abs_scaled_sub_le target second (by norm_num))
          (abs_scaled_sub_le target first (by norm_num))
        rw [amount]
        exact abs_roundAway_sub_le _
      · cases refused.symm.trans converted

/-- A euro is set at 1.08 dollars. -/
def dollarsPerEuro : Decimal := ⟨false, 108, 2, by decide, by decide⟩

def hundredDollars : Money := ⟨10000, .usd, by decide, by decide⟩

/-- A hundred dollars are 92.59 euros, which is less than a cent away from a hundred by 1.08. -/
theorem convert_inverse_near_dollars :
    ∃ quote, RateTable.convert ⟨[(⟨.eur, .usd⟩, dollarsPerEuro)]⟩ hundredDollars .eur = .ok quote ∧
      quote.converted = ⟨9259, .eur, by decide, by decide⟩ ∧
      |(quote.converted.amount : ℚ) - hundredDollars.amount / 10 ^ 2 / dollarsPerEuro.toRat * 10 ^ 2| < 1 := by
  have converted : RateTable.convert ⟨[(⟨.eur, .usd⟩, dollarsPerEuro)]⟩ hundredDollars .eur =
      .ok ⟨⟨9259, .eur, by decide, by decide⟩,
        ⟨false, 9259259259259259259259259259, 28, by decide, by decide⟩⟩ := by decide +kernel
  exact ⟨_, converted, rfl,
    (convert_inverse_near (by decide) (by decide +kernel) (by decide +kernel) converted).2⟩

end RateTable

end Passbook

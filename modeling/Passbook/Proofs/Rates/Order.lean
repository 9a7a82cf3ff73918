import Passbook.Proofs.Rates.Conversion
import Passbook.Proofs.Rates.Tables
/-!
# The order of converted amounts

Of two amounts in one currency the larger is never converted to less.  A product with a rate drops its decimals one
by one until it fits, so that a larger product may be rounded to fewer decimals than a smaller one; but what the
smaller one keeps of them never takes it past the larger one.
-/

namespace Passbook

open Decimal

-- Powers are those of natural numbers and integers, whatever else is in scope.
attribute [local instance (2000)] instPowNat

namespace Money

variable {money money' : Money}

theorem toRat_toMajor_le (same : money.currency = money'.currency) (le : money.amount ≤ money'.amount) :
    money.toMajor.toRat ≤ money'.toMajor.toRat := by
  have le' : (money.amount : ℚ) ≤ money'.amount := by exact_mod_cast le
  rw [toRat_toMajor, toRat_toMajor, same]
  exact div_le_div_of_nonneg_right le' (by positivity)

theorem toRat_toMajor_nonneg (nonneg : 0 ≤ money.amount) : 0 ≤ money.toMajor.toRat := by
  have nonneg' : (0 : ℚ) ≤ money.amount := by exact_mod_cast nonneg
  rw [toRat_toMajor]
  positivity

theorem toRat_toMajor_neg (same : money.currency = money'.currency) (opposite : money'.amount = -money.amount) :
    money'.toMajor.toRat = -money.toMajor.toRat := by
  rw [toRat_toMajor, toRat_toMajor, ← same, opposite, Int.cast_neg, neg_div]

end Money

namespace RateTable

variable {table : RateTable} {settings : List (CurrencyPair × Decimal)} {money money' : Money} {target : Currency}
  {quote quote' : Quote} {rate product product' : Decimal}

/-- A conversion that succeeds is the product with the rate, rounded to minor units. -/
theorem exists_product_of_convert (converted : table.convert money target = .ok quote) :
    ∃ product, table.rate? ⟨money.currency, target⟩ = some quote.rate ∧
      money.toMajor.mul? quote.rate = some product ∧ quote.converted.currency = target ∧
      quote.converted.amount = roundAway (product.toRat * 10 ^ target.minorUnits) := by
  cases rated : table.rate? ⟨money.currency, target⟩ with
  | none =>
      simp only [convert, rated] at converted
      cases converted
  | some rate =>
      rcases convert_cases rated with ⟨product, multiplied, offered⟩ | ⟨_, refused⟩
      · obtain ⟨amount, inCurrency, rfl⟩ := Quote.offer_eq_ok (offered.symm.trans converted)
        exact ⟨product, rfl, multiplied, inCurrency, amount⟩
      · cases refused.symm.trans converted

/-- Products that are rounded to minor units keep their order. -/
theorem roundAway_le_roundAway_of_le (target : Currency) (le : product.toRat ≤ product'.toRat) :
    roundAway (product.toRat * 10 ^ target.minorUnits) ≤ roundAway (product'.toRat * 10 ^ target.minorUnits) :=
  roundAway_le_roundAway (mul_le_mul_of_nonneg_right le (by positivity))

/-- Two amounts in one currency are converted at one rate. -/
theorem rate_eq_rate (same : money.currency = money'.currency) (converted : table.convert money target = .ok quote)
    (converted' : table.convert money' target = .ok quote') : quote.rate = quote'.rate := by
  obtain ⟨_, rated, _⟩ := exists_product_of_convert converted
  obtain ⟨_, rated', _⟩ := exists_product_of_convert converted'
  rw [same, rated'] at rated
  exact (Option.some.inj rated).symm

namespace MadeOf

variable (made : table.MadeOf settings) (same : money.currency = money'.currency)
include made same

/-- A larger amount is not converted to less. -/
theorem convert_le_convert (le : money.amount ≤ money'.amount) (converted : table.convert money target = .ok quote)
    (converted' : table.convert money' target = .ok quote') :
    quote.converted.amount ≤ quote'.converted.amount := by
  have rates := rate_eq_rate same converted converted'
  obtain ⟨product, rated, multiplied, -, amount⟩ := exists_product_of_convert converted
  obtain ⟨product', -, multiplied', -, amount'⟩ := exists_product_of_convert converted'
  rw [← rates] at multiplied'
  rw [amount, amount']
  exact roundAway_le_roundAway_of_le target (mul?_le_mul? (congrArg Currency.minorUnits same)
    Money.scale_toMajor_add_le (made.negative_eq_false rated) (Money.toRat_toMajor_le same le) multiplied multiplied')

/-- An amount that is not negative is converted if a larger one is. -/
theorem exists_convert_of_le (nonneg : 0 ≤ money.amount) (le : money.amount ≤ money'.amount)
    (converted' : table.convert money' target = .ok quote') : ∃ quote, table.convert money target = .ok quote := by
  obtain ⟨product', rated, multiplied', -, amount'⟩ := exists_product_of_convert converted'
  have scale_eq : money.toMajor.scale = money'.toMajor.scale := congrArg Currency.minorUnits same
  have unsigned := made.negative_eq_false rated
  have major_nonneg := Money.toRat_toMajor_nonneg nonneg
  have major_le := Money.toRat_toMajor_le same le
  obtain ⟨product, multiplied⟩ := exists_mul?_of_abs_le scale_eq Money.scale_toMajor_add_le
    (abs_le_abs_of_nonneg major_nonneg major_le) multiplied'
  have product_le := mul?_le_mul? scale_eq Money.scale_toMajor_add_le unsigned major_le multiplied multiplied'
  have product_nonneg := mul?_nonneg Money.scale_toMajor_add_le unsigned major_nonneg multiplied
  rw [← same] at rated
  rcases convert_cases rated with ⟨product'', multiplied'', offered⟩ | ⟨noProduct, _⟩
  · cases multiplied.symm.trans multiplied''
    rw [offered]
    have atLeast : 0 ≤ roundAway (product.toRat * 10 ^ target.minorUnits) :=
      roundAway_nonneg (mul_nonneg product_nonneg (by positivity))
    have atMost : roundAway (product.toRat * 10 ^ target.minorUnits) ≤ quote'.converted.amount :=
      amount' ▸ roundAway_le_roundAway_of_le target product_le
    have least_nonpos : Money.least ≤ 0 := by decide
    exact Quote.exists_offer ⟨least_nonpos.trans atLeast, atMost.trans quote'.converted.le_greatest⟩
  · cases noProduct.symm.trans multiplied

/-- What is taken away instead of given is converted to the same, taken away. -/
theorem convert_neg (opposite : money'.amount = -money.amount) (converted : table.convert money target = .ok quote)
    (converted' : table.convert money' target = .ok quote') :
    quote'.converted.amount = -quote.converted.amount := by
  have rates := rate_eq_rate same converted converted'
  obtain ⟨product, rated, multiplied, -, amount⟩ := exists_product_of_convert converted
  obtain ⟨product', -, multiplied', -, amount'⟩ := exists_product_of_convert converted'
  rw [← rates] at multiplied'
  rw [amount, amount', mul?_toRat_neg (congrArg Currency.minorUnits same) Money.scale_toMajor_add_le
    (made.negative_eq_false rated) (Money.toRat_toMajor_neg same opposite) multiplied multiplied', neg_mul,
    roundAway_neg]

end MadeOf

/-- Amounts in one currency are converted at one rate, and what they are converted to is in their order.  Where an
amount that is not negative can be converted, all that are less and not negative can be.  An amount with the other
sign is converted to the amount with the other sign.  So it is at rates that were set, at rates that are derived from
them and for a currency against itself. -/
theorem convert_monotone (made : table.MadeOf settings) (same : money.currency = money'.currency)
    (target : Currency) :
    (money.amount ≤ money'.amount → ∀ quote quote', table.convert money target = .ok quote →
      table.convert money' target = .ok quote' →
        quote.converted.amount ≤ quote'.converted.amount ∧ quote.converted.currency = target ∧
          quote'.converted.currency = target ∧ quote.rate = quote'.rate) ∧
    (0 ≤ money.amount → money.amount ≤ money'.amount → ∀ quote', table.convert money' target = .ok quote' →
      ∃ quote, table.convert money target = .ok quote) ∧
    (money'.amount = -money.amount → ∀ quote quote', table.convert money target = .ok quote →
      table.convert money' target = .ok quote' →
        quote'.converted.amount = -quote.converted.amount ∧ quote.rate = quote'.rate) := by
  refine ⟨fun le quote quote' converted converted' => ?_, fun nonneg le quote' converted' => ?_,
    fun opposite quote quote' converted converted' => ?_⟩
  · obtain ⟨_, -, -, inCurrency, -⟩ := exists_product_of_convert converted
    obtain ⟨_, -, -, inCurrency', -⟩ := exists_product_of_convert converted'
    exact ⟨made.convert_le_convert same le converted converted', inCurrency, inCurrency',
      rate_eq_rate same converted converted'⟩
  · exact made.exists_convert_of_le same nonneg le converted'
  · exact ⟨made.convert_neg same opposite converted converted', rate_eq_rate same converted converted'⟩

def centLess : Money := ⟨9999, .usd, by decide, by decide⟩

def hundredDollarsLess : Money := ⟨-10000, .usd, by decide, by decide⟩

/-- A hundred dollars come to no fewer euros than a cent less, and to as many as are taken away with them. -/
theorem convert_monotone_dollars :
    ∃ quote quote' quote'', RateTable.convert ⟨[(⟨.eur, .usd⟩, dollarsPerEuro)]⟩ centLess .eur = .ok quote ∧
      RateTable.convert ⟨[(⟨.eur, .usd⟩, dollarsPerEuro)]⟩ hundredDollars .eur = .ok quote' ∧
      RateTable.convert ⟨[(⟨.eur, .usd⟩, dollarsPerEuro)]⟩ hundredDollarsLess .eur = .ok quote'' ∧
      quote.converted.amount ≤ quote'.converted.amount ∧ quote.rate = quote'.rate ∧
      quote''.converted.amount = -quote'.converted.amount := by
  have made : MadeOf ⟨[(⟨.eur, .usd⟩, dollarsPerEuro)]⟩ [(⟨.eur, .usd⟩, dollarsPerEuro)] := by
    unfold MadeOf
    decide
  have converted' : RateTable.convert ⟨[(⟨.eur, .usd⟩, dollarsPerEuro)]⟩ hundredDollars .eur =
      .ok ⟨⟨9259, .eur, by decide, by decide⟩,
        ⟨false, 9259259259259259259259259259, 28, by decide, by decide⟩⟩ := by decide
  have converted'' : RateTable.convert ⟨[(⟨.eur, .usd⟩, dollarsPerEuro)]⟩ hundredDollarsLess .eur =
      .ok ⟨⟨-9259, .eur, by decide, by decide⟩,
        ⟨false, 9259259259259259259259259259, 28, by decide, by decide⟩⟩ := by decide
  have same : centLess.currency = hundredDollars.currency := rfl
  have same' : hundredDollars.currency = hundredDollarsLess.currency := rfl
  obtain ⟨ordered, converts, -⟩ := convert_monotone made same .eur
  obtain ⟨quote, converted⟩ := converts (by decide) (by decide) _ converted'
  obtain ⟨le, -, -, rates⟩ := ordered (by decide) _ _ converted converted'
  obtain ⟨-, -, negated⟩ := convert_monotone made same' .eur
  exact ⟨_, _, _, converted, converted', converted'', le, rates, (negated (by decide) _ _ converted' converted'').1⟩

end RateTable

end Passbook

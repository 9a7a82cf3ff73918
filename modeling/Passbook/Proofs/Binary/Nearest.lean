import Mathlib.Algebra.Order.Field.Power
import Mathlib.Data.Rat.Floor
import Passbook.Binary.Shortest
import Passbook.Proofs.Decimal.Rounding
/-!
# Rounding to double precision

A magnitude of double precision stands for a number, and it covers all numbers that lie between the midpoints to its
neighbours.  A number is rounded to a magnitude that covers it, and to itself if there is a magnitude for it.
-/

namespace Passbook

-- Powers are those of natural numbers and integers, whatever else is in scope.
attribute [local instance (2000)] instPowNat

/-- Where a quotient is rounded to an odd number it does not lie halfway between two. -/
theorem Decimal.roundDiv_within_of_odd {dividend divisor : ℕ} (positive : 0 < divisor)
    (odd : roundDiv .even dividend divisor % 2 = 1) :
    2 * dividend < 2 * (roundDiv .even dividend divisor * divisor) + divisor ∧
      2 * (roundDiv .even dividend divisor * divisor) < 2 * dividend + divisor := by
  have parts := Nat.div_add_mod' dividend divisor
  have less := Nat.mod_lt dividend positive
  have next := Nat.add_one_mul (dividend / divisor) divisor
  unfold roundDiv at odd ⊢
  dsimp only at odd ⊢
  rcases Nat.lt_trichotomy (2 * (dividend % divisor)) divisor with below | half | above
  · rw [if_pos below] at odd ⊢
    omega
  · -- Of two neighbours one is even, and a half goes to that one.
    rw [if_neg (by omega), if_neg (by omega)] at odd
    split at odd <;> omega
  · rw [if_neg (by omega), if_pos above] at odd ⊢
    omega

/-- A quotient is rounded to an even number by a half at most, and to an odd one by less. -/
theorem Decimal.roundDiv_even_bounds (dividend : ℕ) {divisor : ℕ} (positive : 0 < divisor) :
    (roundDiv .even dividend divisor : ℚ) ≤ dividend / divisor + 1 / 2 ∧
      (dividend : ℚ) / divisor ≤ roundDiv .even dividend divisor + 1 / 2 ∧
      (roundDiv .even dividend divisor % 2 = 1 →
        (roundDiv .even dividend divisor : ℚ) < dividend / divisor + 1 / 2 ∧
          (dividend : ℚ) / divisor < roundDiv .even dividend divisor + 1 / 2) := by
  have positive' : (0 : ℚ) < divisor := by exact_mod_cast positive
  obtain ⟨below, above⟩ := abs_sub_le_iff.mp (abs_roundDiv_sub_le .even dividend positive)
  refine ⟨by linarith, by linarith, fun odd => ?_⟩
  obtain ⟨less, less'⟩ := roundDiv_within_of_odd positive odd
  generalize roundDiv .even dividend divisor = rounded at *
  have less_ : 2 * (dividend : ℚ) < 2 * (rounded * divisor) + divisor := by exact_mod_cast less
  have less_' : 2 * ((rounded : ℚ) * divisor) < 2 * dividend + divisor := by exact_mod_cast less'
  constructor
  · rw [← sub_lt_iff_lt_add, lt_div_iff₀ positive']
    linarith
  · rw [div_lt_iff₀ positive']
    linarith

namespace Double

open Decimal (roundDiv)

variable {x : Double} {n d : ℕ} {number : ℚ}

/-! ### The number of a magnitude -/

/-- The number that a magnitude stands for. -/
def toRat (x : Double) : ℚ := x.mantissa * (2 : ℚ) ^ x.exponent

theorem toQuotient_snd_pos (x : Double) : 0 < x.toQuotient.2 := Nat.two_pow_pos _

theorem toQuotient_div (x : Double) : (x.toQuotient.1 : ℚ) / x.toQuotient.2 = x.toRat := by
  obtain ⟨k, positive | negative⟩ := Int.eq_nat_or_neg x.exponent
  · simp [toQuotient, toRat, positive]
  · simp [toQuotient, toRat, negative, div_eq_mul_inv]

theorem scaled_snd_pos (n : ℕ) (positive : 0 < d) (e : ℤ) : 0 < (scaled n d e).2 :=
  Nat.mul_pos positive (Nat.two_pow_pos _)

theorem scaled_div (n d : ℕ) (e : ℤ) : ((scaled n d e).1 : ℚ) / (scaled n d e).2 = n / d / (2 : ℚ) ^ e := by
  obtain ⟨k, rfl | rfl⟩ := Int.eq_nat_or_neg e
  · simp [scaled, div_div]
  · simp [scaled, div_eq_mul_inv, mul_right_comm]

/-! ### The place of a number -/

private theorem zpow_log2_le {n : ℕ} (positive : 0 < n) : (2 : ℚ) ^ (Nat.log2 n : ℤ) ≤ n := by
  rw [zpow_natCast]
  exact_mod_cast Nat.log2_self_le positive.ne'

private theorem lt_zpow_log2 (n : ℕ) : (n : ℚ) < (2 : ℚ) ^ ((Nat.log2 n : ℤ) + 1) := by
  have less : n < 2 ^ (Nat.log2 n + 1) := Nat.lt_log2_self
  exact_mod_cast less

/-- A quotient lies between the powers of two next to that of the leading bits of its parts. -/
theorem log2_bounds (positive : 0 < n) (positive' : 0 < d) :
    (2 : ℚ) ^ ((Nat.log2 n : ℤ) - Nat.log2 d - 1) < n / d ∧
      (n : ℚ) / d < (2 : ℚ) ^ ((Nat.log2 n : ℤ) - Nat.log2 d + 1) := by
  have divisor : (0 : ℚ) < d := by exact_mod_cast positive'
  have atLeast := zpow_log2_le positive
  have atLeast' := zpow_log2_le positive'
  have less := lt_zpow_log2 n
  have less' := lt_zpow_log2 d
  constructor
  · rw [lt_div_iff₀ divisor]
    calc (2 : ℚ) ^ ((Nat.log2 n : ℤ) - Nat.log2 d - 1) * d
        < 2 ^ ((Nat.log2 n : ℤ) - Nat.log2 d - 1) * 2 ^ ((Nat.log2 d : ℤ) + 1) := by gcongr
      _ = 2 ^ (Nat.log2 n : ℤ) := by
          rw [← zpow_add₀ two_ne_zero]
          congr 1
          ring
      _ ≤ n := atLeast
  · rw [div_lt_iff₀ divisor]
    calc (n : ℚ) < 2 ^ ((Nat.log2 n : ℤ) + 1) := less
      _ = 2 ^ ((Nat.log2 n : ℤ) - Nat.log2 d + 1) * 2 ^ (Nat.log2 d : ℤ) := by
          rw [← zpow_add₀ two_ne_zero]
          congr 1
          ring
      _ ≤ 2 ^ ((Nat.log2 n : ℤ) - Nat.log2 d + 1) * d := by gcongr

/-- The last bit of a mantissa is placed so that the mantissa keeps within its bounds. -/
theorem placeExponent_spec (positive : 0 < n) (positive' : 0 < d) :
    leastExponent ≤ placeExponent n d ∧
      (n : ℚ) / d < 2 ^ 53 * (2 : ℚ) ^ placeExponent n d ∧
      (leastExponent < placeExponent n d → 2 ^ 52 * (2 : ℚ) ^ placeExponent n d ≤ n / d) := by
  obtain ⟨above, below⟩ := log2_bounds positive positive'
  -- Whether the estimate is the exponent of the leading bit is found out by a comparison.
  obtain ⟨full, place, less, atLeast⟩ : ∃ full, placeExponent n d = max leastExponent full ∧
      (n : ℚ) / d < 2 ^ 53 * (2 : ℚ) ^ full ∧ 2 ^ 52 * (2 : ℚ) ^ full ≤ n / d := by
    set estimate : ℤ := (Nat.log2 n : ℤ) - Nat.log2 d with estimate_eq
    have compared : (scaled n d estimate).2 ≤ (scaled n d estimate).1 ↔ (2 : ℚ) ^ estimate ≤ n / d := by
      have divisor : (0 : ℚ) < (scaled n d estimate).2 := by exact_mod_cast scaled_snd_pos n positive' estimate
      have power : (0 : ℚ) < 2 ^ estimate := by positivity
      rw [← one_le_div power, ← scaled_div, one_le_div divisor, Nat.cast_le]
    have shift : ∀ k m : ℕ, (2 : ℚ) ^ k * 2 ^ (estimate - m) = 2 ^ (estimate + k - m) := fun k m => by
      rw [← zpow_natCast, ← zpow_add₀ two_ne_zero]
      congr 1
      ring
    by_cases reached : (2 : ℚ) ^ estimate ≤ n / d
    · refine ⟨estimate - 52, ?_, ?_, ?_⟩
      · simp only [placeExponent, ← estimate_eq, if_pos (compared.mpr reached)]
      · have next := shift 53 52
        norm_num at next ⊢
        rw [next, show estimate + 53 - 52 = estimate + 1 by ring]
        exact below
      · have same := shift 52 52
        norm_num at same ⊢
        rw [same]
        exact reached
    · refine ⟨estimate - 53, ?_, ?_, ?_⟩
      · simp only [placeExponent, ← estimate_eq, if_neg (mt compared.mp reached)]
      · have same := shift 53 53
        norm_num at same ⊢
        rw [same]
        exact not_le.mp reached
      · have before := shift 52 53
        norm_num at before ⊢
        rw [before, show estimate + 52 - 53 = estimate - 1 by ring]
        exact above.le
  rw [place]
  refine ⟨le_max_left _ _, less.trans_le ?_, fun more => ?_⟩
  · have further : (2 : ℚ) ^ full ≤ 2 ^ max leastExponent full := zpow_le_zpow_right₀ one_le_two (le_max_right _ _)
    gcongr
  · rw [max_eq_right (lt_max_iff.mp more |>.resolve_left (lt_irrefl _)).le]
    exact atLeast

/-! ### The numbers that a magnitude covers -/

/-- The midpoint between a magnitude and the next one below. -/
def lower (x : Double) : ℚ := (4 * x.mantissa - x.halfGaps.1 : ℕ) * (2 : ℚ) ^ (x.exponent - 2)

/-- The midpoint between a magnitude and the next one above. -/
def upper (x : Double) : ℚ := (4 * x.mantissa + x.halfGaps.2 : ℕ) * (2 : ℚ) ^ (x.exponent - 2)

/-- A magnitude covers the numbers between the midpoints to its neighbours; the midpoints as well if its mantissa is
even. -/
def Covers (x : Double) (number : ℚ) : Prop :=
  x.lower ≤ number ∧ number ≤ x.upper ∧ (x.mantissa % 2 = 1 → x.lower < number ∧ number < x.upper)

theorem zpow_eq_four_mul (exponent : ℤ) : (2 : ℚ) ^ exponent = 4 * 2 ^ (exponent - 2) := by
  rw [zpow_sub₀ two_ne_zero]
  norm_num
  ring

/-- A magnitude covers a number if the two are half of the last bit apart at most, and less than half if the mantissa
is odd; where the magnitudes below are denser, the number must not be below. -/
theorem covers_of_within {mantissa : ℕ} {exponent : ℤ} (nonneg : 0 ≤ number)
    (below : (mantissa : ℚ) * 2 ^ exponent ≤ number + 2 ^ exponent / 2)
    (above : number ≤ mantissa * 2 ^ exponent + 2 ^ exponent / 2)
    (inside : mantissa % 2 = 1 → (mantissa : ℚ) * 2 ^ exponent < number + 2 ^ exponent / 2 ∧
      number < mantissa * 2 ^ exponent + 2 ^ exponent / 2)
    (notBelow : mantissa = mantissaBound / 2 → leastExponent < exponent → (mantissa : ℚ) * 2 ^ exponent ≤ number) :
    Covers ⟨mantissa, exponent⟩ number := by
  have unit : (0 : ℚ) < 2 ^ (exponent - 2) := by positivity
  rw [zpow_eq_four_mul] at below above inside notBelow
  unfold Covers lower upper halfGaps
  dsimp only
  split
  · rename_i dense
    have atLeast := notBelow dense.1 dense.2
    have even : mantissa % 2 ≠ 1 := by rw [dense.1]; decide
    have positive : 1 ≤ 4 * mantissa := by rw [dense.1]; decide
    push_cast [Nat.cast_sub positive]
    exact ⟨by linarith, by linarith, fun odd => absurd odd even⟩
  · rcases Nat.eq_zero_or_pos mantissa with rfl | positive
    · simp only [Nat.cast_zero, zero_mul, zero_add] at above ⊢
      exact ⟨by simpa using nonneg, by push_cast; linarith, fun odd => absurd odd (by decide)⟩
    · have two : 2 ≤ 4 * mantissa := by omega
      push_cast [Nat.cast_sub two]
      refine ⟨by linarith, by linarith, fun odd => ?_⟩
      obtain ⟨below', above'⟩ := inside odd
      exact ⟨by linarith, by linarith⟩

/-- So it does at the start of less dense magnitudes if the number is below by a quarter of the last bit at most. -/
theorem covers_of_below {mantissa : ℕ} {exponent : ℤ} (start : mantissa = mantissaBound / 2)
    (more : leastExponent < exponent) (below : (mantissa : ℚ) * 2 ^ exponent ≤ number + 2 ^ exponent / 4)
    (above : number ≤ mantissa * 2 ^ exponent) : Covers ⟨mantissa, exponent⟩ number := by
  have unit : (0 : ℚ) < 2 ^ (exponent - 2) := by positivity
  have even : mantissa % 2 ≠ 1 := by rw [start]; decide
  have positive : 1 ≤ 4 * mantissa := by rw [start]; decide
  have gaps : halfGaps ⟨mantissa, exponent⟩ = (1, 2) := if_pos ⟨start, more⟩
  rw [zpow_eq_four_mul] at below above
  unfold Covers lower upper
  rw [gaps]
  push_cast [Nat.cast_sub positive]
  exact ⟨by linarith, by linarith, fun odd => absurd odd even⟩

/-- A number is rounded to a magnitude that covers it, and whose mantissa has all its bits unless the number is among
the least. -/
structure RoundedTo (number : ℚ) (x : Double) : Prop where
  covers : x.Covers number
  full : (2 : ℚ) ^ (-150 : ℤ) ≤ number → 2 ^ 52 ≤ x.mantissa

/-- The magnitude of so many units of a last bit.  More than a mantissa holds are half as many of the next bit. -/
def carried (rounded : ℕ) (e : ℤ) : Double :=
  if rounded < mantissaBound then ⟨rounded, e⟩ else ⟨rounded / 2, e + 1⟩

/-- What a quotient in units of its last bit is rounded to. -/
theorem nearest?_eq (n d : ℕ) : nearest? n d =
    (let rounded := roundDiv .even (scaled n d (placeExponent n d)).1 (scaled n d (placeExponent n d)).2
     let x := carried rounded (placeExponent n d)
     if x.exponent ≤ greatestExponent then some x else none) := rfl

theorem cast_mantissaBound : (mantissaBound : ℚ) = 2 ^ 53 := by norm_num [mantissaBound]

theorem cast_half_mantissaBound : ((mantissaBound / 2 : ℕ) : ℚ) = 2 ^ 52 := by
  norm_num [mantissaBound]

/-- What is rounded in units of the last bit keeps within the bounds of mantissas or comes to the upper bound. -/
theorem rounded_bounds {a b : ℕ} (positive : 0 < b) {e : ℤ} (same : (a : ℚ) / b = number / 2 ^ e)
    (less : number < 2 ^ 53 * 2 ^ e) (full : leastExponent < e → 2 ^ 52 * (2 : ℚ) ^ e ≤ number) :
    roundDiv .even a b ≤ mantissaBound ∧ (leastExponent < e → mantissaBound / 2 ≤ roundDiv .even a b) := by
  have unit : (0 : ℚ) < 2 ^ e := by positivity
  have positive' : (0 : ℚ) < b := by exact_mod_cast positive
  constructor
  · refine Decimal.roundDiv_le positive ?_
    rw [← div_lt_iff₀ unit, ← same, div_lt_iff₀ positive', ← cast_mantissaBound] at less
    exact_mod_cast less.le
  · intro more
    refine Decimal.le_roundDiv positive ?_
    have atLeast := full more
    rw [← le_div_iff₀ unit, ← same, le_div_iff₀ positive', ← cast_half_mantissaBound] at atLeast
    exact_mod_cast atLeast

theorem exponent_carried_le (rounded : ℕ) (e : ℤ) : (carried rounded e).exponent ≤ e + 1 := by
  unfold carried
  split <;> dsimp only <;> omega

theorem full_carried {rounded : ℕ} {e : ℤ} (full : mantissaBound / 2 ≤ rounded) :
    2 ^ 52 ≤ (carried rounded e).mantissa := by
  have bound : mantissaBound = 2 * 2 ^ 52 := by decide
  unfold carried
  split <;> dsimp only <;> omega

/-- A number that is rounded to so many units of the last bit is covered. -/
theorem covers_carried {rounded : ℕ} {e : ℤ} (nonneg : 0 ≤ number) (atLeast : leastExponent ≤ e)
    (less : number < 2 ^ 53 * 2 ^ e) (full : leastExponent < e → 2 ^ 52 * (2 : ℚ) ^ e ≤ number)
    (atMost : rounded ≤ mantissaBound)
    (below : (rounded : ℚ) ≤ number / 2 ^ e + 1 / 2) (above : number / 2 ^ e ≤ rounded + 1 / 2)
    (inside : rounded % 2 = 1 → (rounded : ℚ) < number / 2 ^ e + 1 / 2 ∧ number / 2 ^ e < rounded + 1 / 2) :
    (carried rounded e).Covers number := by
  have unit : (0 : ℚ) < 2 ^ e := by positivity
  have number_eq : number / 2 ^ e * 2 ^ e = number := div_mul_cancel₀ _ unit.ne'
  have below' := mul_le_mul_of_nonneg_right below unit.le
  have above' := mul_le_mul_of_nonneg_right above unit.le
  unfold carried
  rcases atMost.eq_or_lt with rfl | fits
  · have double : (2 : ℚ) ^ (e + 1) = 2 * 2 ^ e := by rw [zpow_add_one₀ two_ne_zero, mul_comm]
    rw [if_neg (Nat.lt_irrefl _)]
    refine covers_of_below rfl (by omega) ?_ ?_ <;> rw [cast_half_mantissaBound, double]
    · rw [cast_mantissaBound] at below'
      linarith
    · linarith
  · rw [if_pos fits]
    refine covers_of_within nonneg (by linarith) (by linarith) (fun odd => ?_) fun start more => ?_
    · obtain ⟨below, above⟩ := inside odd
      have below_ := mul_lt_mul_of_pos_right below unit
      have above_ := mul_lt_mul_of_pos_right above unit
      constructor <;> linarith
    · rw [start, cast_half_mantissaBound]
      exact full more

/-- The exponents of numbers that are not too large are in range. -/
theorem placeExponent_lt (positive : 0 < n) (positive' : 0 < d) (small : (n : ℚ) / d < 2 ^ (150 : ℤ)) :
    placeExponent n d < 100 := by
  obtain ⟨atLeast, _, full⟩ := placeExponent_spec positive positive'
  rcases atLeast.eq_or_lt with least | more
  · rw [← least]
    decide
  · by_contra large
    have power : (2 : ℚ) ^ (100 : ℤ) ≤ 2 ^ placeExponent n d := zpow_le_zpow_right₀ one_le_two (not_lt.mp large)
    have enough := full more
    norm_num at power small
    linarith

/-- Those of numbers that are not among the least are more than the least exponent. -/
theorem leastExponent_lt (positive : 0 < n) (positive' : 0 < d) (large : (2 : ℚ) ^ (-150 : ℤ) ≤ n / d) :
    leastExponent < placeExponent n d := by
  obtain ⟨atLeast, less, _⟩ := placeExponent_spec positive positive'
  refine atLeast.lt_of_ne fun least => ?_
  have power : (2 : ℚ) ^ leastExponent ≤ 2 ^ (-250 : ℤ) := zpow_le_zpow_right₀ one_le_two (by decide)
  rw [← least] at less
  norm_num at power large
  linarith

theorem exists_nearest? (positive : 0 < n) (positive' : 0 < d) (small : (n : ℚ) / d < 2 ^ (150 : ℤ)) :
    ∃ x, nearest? n d = some x ∧ RoundedTo (n / d) x := by
  obtain ⟨atLeast, less, full⟩ := placeExponent_spec positive positive'
  have divisor := scaled_snd_pos n positive' (placeExponent n d)
  have quotient := scaled_div n d (placeExponent n d)
  obtain ⟨atMost, atLeast'⟩ := rounded_bounds divisor quotient less full
  obtain ⟨below, above, inside⟩ :=
    Decimal.roundDiv_even_bounds (scaled n d (placeExponent n d)).1 divisor
  rw [quotient] at below above inside
  have covers := covers_carried (by positivity) atLeast less full atMost below above inside
  have inRange := placeExponent_lt positive positive' small
  refine ⟨_, ?_, covers, fun large => full_carried (atLeast' (leastExponent_lt positive positive' large))⟩
  rw [nearest?_eq]
  refine if_pos ((exponent_carried_le _ _).trans ?_)
  unfold greatestExponent
  omega

/-- A number that there is a magnitude for is rounded to it. -/
theorem toRat_of_nearest? (positive : 0 < n) (positive' : 0 < d) (nearest : nearest? n d = some x) {mantissa : ℕ}
    {exponent : ℤ} (small : mantissa < mantissaBound) (atLeast : leastExponent ≤ exponent)
    (same : (n : ℚ) / d = mantissa * 2 ^ exponent) : x.toRat = n / d := by
  obtain ⟨_, less, full⟩ := placeExponent_spec positive positive'
  have divisor := scaled_snd_pos n positive' (placeExponent n d)
  have quotient := scaled_div n d (placeExponent n d)
  rw [nearest?_eq] at nearest
  generalize placeExponent n d = e at *
  generalize (scaled n d e).1 = a at *
  generalize (scaled n d e).2 = b at *
  generalize (n : ℚ) / d = number at *
  have unit : (0 : ℚ) < 2 ^ e := by positivity
  have within : e ≤ exponent := by
    by_contra beyond
    have enough := full (atLeast.trans_lt (not_le.mp beyond))
    have small' : (mantissa : ℚ) < 2 ^ 53 := by
      rw [← cast_mantissaBound]
      exact_mod_cast small
    have next : (2 : ℚ) ^ exponent * 2 ≤ 2 ^ e := by
      rw [← zpow_add_one₀ two_ne_zero]
      exact zpow_le_zpow_right₀ one_le_two (by omega)
    have power : (0 : ℚ) < 2 ^ exponent := by positivity
    nlinarith
  -- So the number is a whole number of units of the last bit.
  obtain ⟨k, rfl⟩ := Int.le.dest within
  have units : number / 2 ^ e = (mantissa * 2 ^ k : ℕ) := by
    rw [same, zpow_add₀ two_ne_zero, zpow_natCast, div_eq_iff unit.ne']
    push_cast
    ring
  have dividend : a = b * (mantissa * 2 ^ k) := by
    have positive' : (0 : ℚ) < b := by exact_mod_cast divisor
    rw [units, div_eq_iff positive'.ne', mul_comm] at quotient
    exact_mod_cast quotient
  have few : mantissa * 2 ^ k < mantissaBound := by
    rw [← div_lt_iff₀ unit, units, ← cast_mantissaBound] at less
    exact_mod_cast less
  rw [dividend, Decimal.roundDiv_mul_left _ _ divisor] at nearest
  dsimp only at nearest
  rw [carried, if_pos few] at nearest
  split at nearest
  · cases nearest
    rw [toRat, ← units, div_mul_cancel₀ _ unit.ne']
  · cases nearest

/-! ### Products and quotients -/

section Operations

variable {y : Double}

theorem mantissa_pos (positive : 0 < x.toRat) : 0 < x.mantissa := by
  refine Nat.pos_of_ne_zero fun nothing => positive.ne' ?_
  rw [toRat, nothing, Nat.cast_zero, zero_mul]

theorem toQuotient_fst_pos (positive : 0 < x.toRat) : 0 < x.toQuotient.1 :=
  Nat.mul_pos (mantissa_pos positive) (Nat.two_pow_pos _)

/-- A product is rounded once. -/
theorem exists_mul? (positive : 0 < x.toRat) (positive' : 0 < y.toRat) (small : x.toRat * y.toRat < 2 ^ (150 : ℤ)) :
    ∃ z, x.mul? y = some z ∧ RoundedTo (x.toRat * y.toRat) z := by
  have product : ((x.toQuotient.1 * y.toQuotient.1 : ℕ) : ℚ) / (x.toQuotient.2 * y.toQuotient.2 : ℕ) =
      x.toRat * y.toRat := by
    rw [Nat.cast_mul, Nat.cast_mul, mul_div_mul_comm, toQuotient_div, toQuotient_div]
  rw [← product] at small ⊢
  exact exists_nearest? (Nat.mul_pos (toQuotient_fst_pos positive) (toQuotient_fst_pos positive'))
    (Nat.mul_pos x.toQuotient_snd_pos y.toQuotient_snd_pos) small

/-- So is a quotient. -/
theorem exists_div? (positive : 0 < x.toRat) (positive' : 0 < y.toRat) (small : x.toRat / y.toRat < 2 ^ (150 : ℤ)) :
    ∃ z, x.div? y = some z ∧ RoundedTo (x.toRat / y.toRat) z := by
  have quotient : ((x.toQuotient.1 * y.toQuotient.2 : ℕ) : ℚ) / (x.toQuotient.2 * y.toQuotient.1 : ℕ) =
      x.toRat / y.toRat := by
    rw [Nat.cast_mul, Nat.cast_mul, ← div_div_div_eq, toQuotient_div, toQuotient_div]
  rw [← quotient] at small ⊢
  exact exists_nearest? (Nat.mul_pos (toQuotient_fst_pos positive) y.toQuotient_snd_pos)
    (Nat.mul_pos x.toQuotient_snd_pos (toQuotient_fst_pos positive')) small

end Operations

end Double

end Passbook

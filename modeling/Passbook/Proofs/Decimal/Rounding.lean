import Mathlib.Algebra.Order.Round
import Mathlib.Data.Rat.Floor
import Passbook.Proofs.Decimal.Value
/-!
# Rounding to whole numbers

Quotients are rounded to a whole number next to them, and a number is rounded to the whole number next to it.
Where a number has been rounded before, to digits that are fine enough, rounding it again comes to the same,
unless the first rounding has moved it up to a half.
-/

namespace Passbook.Decimal

-- Powers are those of natural numbers and integers, whatever else is in scope.
attribute [local instance (2000)] instPowNat

/-! ### Quotients -/

section Quotients

variable {tie : Tie} {dividend divisor bound : ℕ}

/-- Rounding does not go below a whole number. -/
theorem le_roundDiv (positive : 0 < divisor) (atLeast : bound * divisor ≤ dividend) :
    bound ≤ roundDiv tie dividend divisor := by
  have floor : bound ≤ dividend / divisor := (Nat.le_div_iff_mul_le positive).mpr atLeast
  rcases roundDiv_floor_or_succ tie dividend divisor with down | up <;> omega

/-- Rounding does not go beyond a whole number. -/
theorem roundDiv_le (positive : 0 < divisor) (atMost : dividend ≤ bound * divisor) :
    roundDiv tie dividend divisor ≤ bound := by
  rcases Nat.eq_or_lt_of_le atMost with rfl | less
  · rw [Nat.mul_comm, roundDiv_mul_left tie bound positive]
  · have floor : dividend / divisor < bound := (Nat.div_lt_iff_lt_mul positive).mpr less
    rcases roundDiv_floor_or_succ tie dividend divisor with down | up <;> omega

/-- A quotient that is expanded by a factor is rounded to the same number. -/
theorem roundDiv_mul_right (tie : Tie) (dividend divisor : ℕ) {factor : ℕ} (positive : 0 < factor) :
    roundDiv tie (dividend * factor) (divisor * factor) = roundDiv tie dividend divisor := by
  have below : 2 * (dividend % divisor * factor) < divisor * factor ↔ 2 * (dividend % divisor) < divisor := by
    rw [← Nat.mul_assoc, Nat.mul_lt_mul_right positive]
  have above : divisor * factor < 2 * (dividend % divisor * factor) ↔ divisor < 2 * (dividend % divisor) := by
    rw [← Nat.mul_assoc, Nat.mul_lt_mul_right positive]
  simp only [roundDiv, Nat.mul_div_mul_right _ _ positive, Nat.mul_mod_mul_right, below, above]

/-- A larger dividend is not rounded to a smaller number. -/
theorem roundDiv_le_roundDiv_of_le {dividend' : ℕ} (le : dividend ≤ dividend') :
    roundDiv tie dividend divisor ≤ roundDiv tie dividend' divisor := by
  rcases Nat.eq_or_lt_of_le (Nat.div_le_div_right (c := divisor) le) with same | less
  · -- With one quotient rounded down, the remainders decide.
    have parts := Nat.div_add_mod dividend divisor
    have parts' := Nat.div_add_mod dividend' divisor
    rw [← same] at parts'
    have remainders : dividend % divisor ≤ dividend' % divisor := by omega
    unfold roundDiv
    rw [← same]
    dsimp only
    cases tie <;> grind
  · rcases roundDiv_floor_or_succ tie dividend divisor with down | up <;>
      rcases roundDiv_floor_or_succ tie dividend' divisor with down' | up' <;> omega

/-- A larger quotient is not rounded to a smaller number. -/
theorem roundDiv_le_roundDiv (tie : Tie) {dividend' divisor' : ℕ} (positive : 0 < divisor) (positive' : 0 < divisor')
    (le : dividend * divisor' ≤ dividend' * divisor) :
    roundDiv tie dividend divisor ≤ roundDiv tie dividend' divisor' := by
  rw [← roundDiv_mul_right tie dividend divisor positive', ← roundDiv_mul_right tie dividend' divisor' positive,
    Nat.mul_comm divisor' divisor]
  exact roundDiv_le_roundDiv_of_le le

/-- A quotient is rounded to more than nothing exactly if it is more than a half. -/
theorem roundDiv_even_pos_iff (dividend : ℕ) (positive : 0 < divisor) :
    0 < roundDiv .even dividend divisor ↔ divisor < 2 * dividend := by
  rcases Nat.lt_or_ge dividend divisor with less | atLeast
  · unfold roundDiv
    rw [Nat.div_eq_of_lt less, Nat.mod_eq_of_lt less]
    dsimp only
    split
    · omega
    · split <;> simp_all
  · have one : 1 ≤ roundDiv .even dividend divisor := le_roundDiv positive (by omega)
    omega

/-- A quotient is rounded by half the divisor at most. -/
theorem roundDiv_within (tie : Tie) (dividend : ℕ) (positive : 0 < divisor) :
    2 * dividend ≤ 2 * (roundDiv tie dividend divisor * divisor) + divisor ∧
      2 * (roundDiv tie dividend divisor * divisor) ≤ 2 * dividend + divisor := by
  have parts := Nat.div_add_mod' dividend divisor
  have less := Nat.mod_lt dividend positive
  have next := Nat.add_one_mul (dividend / divisor) divisor
  unfold roundDiv
  dsimp only
  split
  · omega
  · split
    · omega
    · rcases tie with _ | _ <;> dsimp only
      · omega
      · split <;> omega

/-- A quotient at a half goes up where halves go away from zero. -/
theorem lt_roundDiv_away (dividend : ℕ) (positive : 0 < divisor) :
    2 * dividend < 2 * (roundDiv .away dividend divisor * divisor) + divisor := by
  have parts := Nat.div_add_mod' dividend divisor
  have less := Nat.mod_lt dividend positive
  have next := Nat.add_one_mul (dividend / divisor) divisor
  unfold roundDiv
  dsimp only
  split
  · omega
  · split <;> omega

/-- Rounding moves a quotient by a half at most. -/
theorem abs_roundDiv_sub_le (tie : Tie) (dividend : ℕ) (positive : 0 < divisor) :
    |(roundDiv tie dividend divisor : ℚ) - dividend / divisor| ≤ 1 / 2 := by
  have positive' : (0 : ℚ) < divisor := by exact_mod_cast positive
  obtain ⟨below, above⟩ := roundDiv_within tie dividend positive
  have below' : 2 * (dividend : ℚ) ≤ 2 * (roundDiv tie dividend divisor * divisor) + divisor := by
    exact_mod_cast below
  have above' : 2 * ((roundDiv tie dividend divisor : ℚ) * divisor) ≤ 2 * dividend + divisor := by
    exact_mod_cast above
  rw [abs_sub_le_iff, sub_le_iff_le_add, sub_le_iff_le_add]
  constructor
  · rw [← sub_le_iff_le_add', le_div_iff₀ positive']
    linarith
  · rw [div_le_iff₀ positive']
    linarith

/-- A quotient that is rounded with halves going up. -/
theorem round_div_eq (dividend : ℕ) (positive : 0 < divisor) :
    round ((dividend : ℚ) / divisor) = roundDiv .away dividend divisor := by
  have positive' : (0 : ℚ) < divisor := by exact_mod_cast positive
  have below : 2 * (dividend : ℚ) < 2 * (roundDiv .away dividend divisor * divisor) + divisor := by
    exact_mod_cast lt_roundDiv_away dividend positive
  have above : 2 * ((roundDiv .away dividend divisor : ℚ) * divisor) ≤ 2 * dividend + divisor := by
    exact_mod_cast (roundDiv_within .away dividend positive).2
  rw [round_eq, Int.floor_eq_iff, Int.cast_natCast]
  constructor
  · rw [← sub_le_iff_le_add, le_div_iff₀ positive']
    linarith
  · rw [← lt_sub_iff_add_lt, div_lt_iff₀ positive']
    linarith

end Quotients

/-! ### Decimals -/

/-- Half of the last place of a mantissa is a part in `10 ^ 28`, of one or of the number, if there is no room for
another digit. -/
theorem half_unit_le {scale : ℕ} {number : ℚ} (nonneg : 0 ≤ number)
    (full : maxScale ≤ scale ∨ (mantissaBound - 1 / 2 : ℚ) ≤ number * 10 ^ (scale + 1)) :
    1 / 2 / 10 ^ scale ≤ (1 + number) / 10 ^ 28 := by
  have positive : (0 : ℚ) < 10 ^ scale := by positivity
  rw [div_le_div_iff₀ positive (by positivity)]
  rcases full with last | long
  · have powers : (10 : ℚ) ^ 28 ≤ 10 ^ scale := pow_le_pow_right₀ (by norm_num) last
    nlinarith
  · -- The mantissa is so long that its last place is a small part of it.
    have bound : (5 * 10 ^ 28 : ℚ) ≤ mantissaBound - 1 / 2 := by norm_num [mantissaBound]
    rw [pow_succ, ← mul_assoc] at long
    rw [add_mul]
    linarith

/-! ### Numbers -/

/-- The whole number nearest to a number, a half going away from zero. -/
def roundAway (number : ℚ) : ℤ := if number < 0 then -round (-number) else round number

/-- Sign and magnitude are rounded apart. -/
theorem roundAway_signed (negative : Bool) {magnitude : ℚ} (nonneg : 0 ≤ magnitude) :
    roundAway (signed negative magnitude) = if negative then -round magnitude else round magnitude := by
  cases negative with
  | false =>
      have notNegative : ¬ magnitude < 0 := not_lt.mpr nonneg
      simp [roundAway, signed, notNegative]
  | true =>
      rcases nonneg.eq_or_lt with rfl | positive
      · simp [roundAway, signed]
      · simp [roundAway, signed, positive]

theorem round_nonneg {magnitude : ℚ} (nonneg : 0 ≤ magnitude) : 0 ≤ round magnitude := by
  rw [round_eq]
  exact Int.floor_nonneg.mpr (by linarith)

theorem abs_roundAway_signed (negative : Bool) {magnitude : ℚ} (nonneg : 0 ≤ magnitude) :
    |roundAway (signed negative magnitude)| = round magnitude := by
  rw [roundAway_signed negative nonneg]
  cases negative with
  | false => exact abs_of_nonneg (round_nonneg nonneg)
  | true => exact (abs_neg _).trans (abs_of_nonneg (round_nonneg nonneg))

/-- Rounding moves a number by a half at most. -/
theorem abs_roundAway_sub_le (number : ℚ) : |(roundAway number : ℚ) - number| ≤ 1 / 2 := by
  unfold roundAway
  split
  · have same : ((-round (-number) : ℤ) : ℚ) - number = -number - round (-number) := by
      push_cast
      ring
    rw [same]
    exact abs_sub_round (-number)
  · rw [abs_sub_comm]
    exact abs_sub_round number

theorem roundAway_neg (number : ℚ) : roundAway (-number) = -roundAway number := by
  rcases lt_trichotomy number 0 with below | rfl | above
  · rw [roundAway, roundAway, if_pos below, if_neg (by linarith), neg_neg]
  · simp [roundAway]
  · rw [roundAway, roundAway, if_pos (by linarith), if_neg (by linarith), neg_neg]

theorem roundAway_nonneg {number : ℚ} (nonneg : 0 ≤ number) : 0 ≤ roundAway number := by
  rw [roundAway, if_neg (not_lt.mpr nonneg)]
  exact round_nonneg nonneg

theorem round_le_round {number number' : ℚ} (le : number ≤ number') : round number ≤ round number' := by
  rw [round_eq, round_eq]
  exact Int.floor_le_floor (by linarith)

/-- A larger number is not rounded to a smaller one. -/
theorem roundAway_le_roundAway {number number' : ℚ} (le : number ≤ number') :
    roundAway number ≤ roundAway number' := by
  unfold roundAway
  split
  · rename_i below
    split
    · exact neg_le_neg (round_le_round (neg_le_neg le))
    · rename_i notBelow
      have first := round_nonneg (by linarith : 0 ≤ -number)
      have second := round_nonneg (not_lt.mp notBelow)
      omega
  · rename_i notBelow
    rw [if_neg (by linarith)]
    exact round_le_round le

/-- A decimal that is rounded to so many places is the whole number of units of the last place next to it. -/
theorem roundTo_mul_pow (d : Decimal) {places : ℕ} (within : places ≤ maxScale) :
    (d.roundTo places).toRat * 10 ^ places = roundAway (d.toRat * 10 ^ places) := by
  unfold roundTo
  split
  · rename_i short
    obtain ⟨zeros, rfl⟩ := Nat.exists_eq_add_of_le short
    have whole : (d.mantissa : ℚ) / 10 ^ d.scale * 10 ^ (d.scale + zeros) = (d.mantissa * 10 ^ zeros : ℕ) := by
      rw [pow_add, ← mul_assoc, div_mul_cancel₀ _ (by positivity)]
      push_cast
      ring
    rw [toRat, signed_mul, whole, roundAway_signed _ (by positivity), signed]
    split
    · rw [Int.cast_neg, round_natCast, Int.cast_natCast]
    · rw [round_natCast, Int.cast_natCast]
  · rename_i long
    obtain ⟨dropped, total⟩ := Nat.exists_eq_add_of_lt (Nat.not_le.mp long)
    have positive : 0 < 10 ^ (d.scale - places) := by positivity
    have fits : roundDiv .away d.mantissa (10 ^ (d.scale - places)) < mantissaBound :=
      Nat.lt_of_le_of_lt (roundDiv_le positive (Nat.le_mul_of_pos_right _ positive)) d.mantissa_lt
    have magnitude : (d.mantissa : ℚ) / 10 ^ d.scale * 10 ^ places
        = d.mantissa / (10 ^ (d.scale - places) : ℕ) := by
      rw [total, Nat.add_assoc, Nat.add_sub_cancel_left, pow_add]
      push_cast
      field_simp
    rw [ofParts?, dif_pos ⟨fits, within⟩, Option.getD_some, toRat, toRat, signed_mul, signed_mul,
      div_mul_cancel₀ _ (by positivity), magnitude, roundAway_signed _ (by positivity), round_div_eq _ positive,
      signed]
    split <;> simp

/-! ### Rounding twice -/

/-- Rounding a magnitude has not taken it past a half between whole numbers. -/
def KeepsHalves (exact rounded : ℚ) : Prop :=
  ∀ k : ℕ, ((k : ℚ) + 1 / 2 ≤ exact → (k : ℚ) + 1 / 2 ≤ rounded) ∧
    (exact ≤ (k : ℚ) + 1 / 2 → rounded ≤ (k : ℚ) + 1 / 2)

/-- Rounding a magnitude has moved it up to a half between whole numbers. -/
def LiftedToHalf (exact rounded : ℚ) : Prop := exact < rounded ∧ ∃ k : ℕ, rounded = k + 1 / 2

section Twice

variable {exact rounded : ℚ}

/-- A magnitude that has been rounded is still within a half of what it is rounded to at once. -/
theorem KeepsHalves.exists_bounds (keeps : KeepsHalves exact rounded) (nonneg : 0 ≤ exact)
    (nonneg' : 0 ≤ rounded) :
    ∃ n : ℕ, round exact = n ∧ ((n : ℚ) - 1 / 2 ≤ exact ∧ exact < n + 1 / 2) ∧
      (n : ℚ) - 1 / 2 ≤ rounded ∧ rounded ≤ n + 1 / 2 := by
  obtain ⟨n, isRound⟩ : ∃ n : ℕ, round exact = n := Int.eq_ofNat_of_zero_le (round_nonneg nonneg)
  obtain ⟨atLeast, below⟩ := Int.floor_eq_iff.mp ((round_eq exact).symm.trans isRound)
  rw [Int.cast_natCast] at atLeast below
  refine ⟨n, isRound, ⟨by linarith, by linarith⟩, ?_, (keeps n).2 (by linarith)⟩
  cases n with
  | zero =>
      rw [Nat.cast_zero]
      linarith
  | succ n =>
      have half := (keeps n).1
      push_cast at atLeast ⊢
      linarith [half (by linarith)]

/-- Rounding twice comes to the same as rounding once where nothing was moved up to a half. -/
theorem KeepsHalves.round_eq_round (keeps : KeepsHalves exact rounded) (nonneg : 0 ≤ exact)
    (nonneg' : 0 ≤ rounded) (steady : ¬ LiftedToHalf exact rounded) : round rounded = round exact := by
  obtain ⟨n, isRound, ⟨_, below⟩, atLeast, atMost⟩ := keeps.exists_bounds nonneg nonneg'
  have less : rounded < n + 1 / 2 := atMost.lt_of_ne fun half => steady ⟨by rwa [half], n, half⟩
  rw [isRound, round_eq, Int.floor_eq_iff, Int.cast_natCast]
  constructor <;> linarith

/-- Rounding twice comes to one more where the first rounding moved up to a half. -/
theorem KeepsHalves.round_eq_round_add_one (keeps : KeepsHalves exact rounded) (nonneg : 0 ≤ exact)
    (nonneg' : 0 ≤ rounded) (lifted : LiftedToHalf exact rounded) : round rounded = round exact + 1 := by
  obtain ⟨n, isRound, ⟨atLeast, _⟩, _, atMost⟩ := keeps.exists_bounds nonneg nonneg'
  obtain ⟨less, k, half⟩ := lifted
  have same : k = n := by
    have most : k ≤ n := by
      have : (k : ℚ) ≤ n := by linarith
      exact_mod_cast this
    have least : n < k + 1 := by
      have : (n : ℚ) < k + 1 := by linarith
      exact_mod_cast this
    omega
  rw [isRound, round_eq, Int.floor_eq_iff, half, same]
  push_cast
  constructor <;> linarith

end Twice

end Passbook.Decimal

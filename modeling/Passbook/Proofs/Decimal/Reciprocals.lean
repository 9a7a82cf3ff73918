import Mathlib.Data.Nat.Cast.Order.Field
import Passbook.Proofs.Decimal.Rounding
/-!
# Reciprocals

Long division keeps what it has divided so far: the quotient and the remainder make up a power of ten.  It ends
with nothing left or with no room for another digit, so that the reciprocal is off by less than a part in
`10 ^ 28`.  There is a reciprocal of every number but zero, and it fits; that of a very large number is zero.
-/

namespace Passbook.Decimal

-- Powers are those of natural numbers and integers, whatever else is in scope.
attribute [local instance (2000)] instPowNat

/-! ### Long division -/

namespace Division

variable {shift divisor digits places fuel : ℕ} {state : Division}

/-- Where no digit can be appended the scale is the largest one or the quotient has no room. -/
theorem of_room_eq_zero (noRoom : state.room = 0) :
    (maxScale : ℤ) ≤ state.scale ∨ mantissaBound ≤ state.quotient * 10 := by
  by_contra room
  have one : 1 ≤ state.room := by
    rw [Division.room, List.foldl_max]
    refine Nat.le_trans (List.le_max?_getD_of_mem (List.mem_filter.mpr ⟨by decide, ?_⟩)) (Nat.le_max_right _ _)
    simp only [Bool.and_eq_true, decide_eq_true_eq]
    omega
  omega

/-- Where digits can be appended there is room for them, as far as the digits that are there already tell. -/
theorem of_room_ne_zero (hasRoom : state.room ≠ 0) :
    state.room ≤ 9 ∧ state.scale + state.room ≤ maxScale ∧ state.quotient * 10 ^ state.room < mantissaBound := by
  have member : state.room ∈ 0 :: List.filter _ (List.range 10) := List.max?_mem List.max?_cons'
  obtain ⟨few, fits⟩ := List.mem_filter.mp ((List.mem_cons.mp member).resolve_left hasRoom)
  simp only [Bool.and_eq_true, decide_eq_true_eq] at fits
  exact ⟨Nat.le_of_lt_succ (List.mem_range.mp few), fits⟩

/-- A division of `10 ^ shift` that has brought down so many digits. -/
structure Proper (shift divisor digits : ℕ) (state : Division) : Prop where
  total : state.quotient * divisor + state.remainder = 10 ^ digits
  less : state.remainder < divisor
  scale_eq : state.scale = digits - (shift : ℤ)

/-- A division that has come to its end: the quotient is rounded, it fits, and no digit more would. -/
structure Ended (shift divisor digits : ℕ) (state : Division) : Prop where
  scale_eq : state.scale = digits - (shift : ℤ)
  quotient_eq : state.quotient = roundDiv .even (10 ^ digits) divisor
  fits : state.quotient < mantissaBound
  nonneg : 0 ≤ state.scale
  scale_le : state.scale ≤ maxScale
  full : divisor ∣ 10 ^ digits ∨ state.scale = maxScale ∨
    mantissaBound ≤ roundDiv .even (10 ^ (digits + 1)) divisor

/-- A quotient of a power of ten that has no room has more digits than the largest scale. -/
theorem maxScale_lt_of_bound_le (positive : 0 < divisor)
    (long : mantissaBound ≤ roundDiv .even (10 ^ digits) divisor) : maxScale < digits := by
  by_contra few
  have most : roundDiv .even (10 ^ digits) divisor ≤ 10 ^ digits :=
    roundDiv_le positive (Nat.le_mul_of_pos_right _ positive)
  have powers : 10 ^ digits ≤ 10 ^ maxScale := Nat.pow_le_pow_right (by decide) (Nat.not_lt.mp few)
  have less : 10 ^ maxScale < mantissaBound := by decide
  omega

namespace Proper

theorem positive (proper : Proper shift divisor digits state) : 0 < divisor := Nat.zero_lt_of_lt proper.less

theorem bringDown (proper : Proper shift divisor digits state) (places : ℕ) :
    Proper shift divisor (digits + places) (state.bringDown divisor places) where
  total := by
    have parts := Nat.div_add_mod (state.remainder * 10 ^ places) divisor
    simp only [Division.bringDown]
    rw [pow_add, ← proper.total]
    linarith
  less := Nat.mod_lt _ proper.positive
  scale_eq := by
    simp only [Division.bringDown]
    rw [proper.scale_eq]
    push_cast
    ring

/-- The quotient is no more than what is divided. -/
theorem quotient_le (proper : Proper shift divisor digits state) : state.quotient ≤ 10 ^ digits := by
  have total := proper.total
  have times : state.quotient ≤ state.quotient * divisor := Nat.le_mul_of_pos_right _ proper.positive
  omega

/-- With one digit more the quotient comes to ten times as much at least. -/
theorem mul_ten_le (proper : Proper shift divisor digits state) :
    state.quotient * 10 ≤ roundDiv .even (10 ^ (digits + 1)) divisor := by
  refine le_roundDiv proper.positive ?_
  rw [pow_succ, ← proper.total, Nat.mul_right_comm]
  omega

/-- Digits for which there was room take the quotient no further than the place behind it. -/
theorem bringDown_lt (proper : Proper shift divisor digits state) (few : places ≤ 9)
    (fits : state.quotient * 10 ^ places < mantissaBound) :
    (state.bringDown divisor places).quotient < mantissaBound + 10 ^ 9 := by
  have appended : state.remainder * 10 ^ places / divisor < 10 ^ places := by
    rw [Nat.div_lt_iff_lt_mul proper.positive, Nat.mul_comm]
    exact Nat.mul_lt_mul_of_pos_left proper.less (by positivity)
  have powers : 10 ^ places ≤ 10 ^ 9 := Nat.pow_le_pow_right (by decide) few
  simp only [Division.bringDown]
  omega

/-- A division with nothing left to it, or no room for more, is rounded: to its last digit if that fits, and else
to the one before. -/
theorem exists_ended (proper : Proper shift divisor digits state) (small : state.quotient < mantissaBound + 10 ^ 9)
    (nonneg : 0 ≤ state.scale) (scale_le : state.scale ≤ maxScale) (shift_le : shift ≤ maxScale)
    (full : state.remainder = 0 ∨ state.scale = maxScale ∨ mantissaBound ≤ state.quotient * 10) :
    ∃ digits, Ended shift divisor digits (state.roundOff divisor) := by
  have total := proper.total
  have positive := proper.positive
  unfold Division.roundOff
  dsimp only
  rw [total]
  split
  · rename_i fits
    refine ⟨digits, proper.scale_eq, rfl, fits, nonneg, scale_le, ?_⟩
    rcases full with nothing | last | noRoom
    · rw [nothing, Nat.add_zero] at total
      exact .inl (Dvd.intro_left _ total)
    · exact .inr (.inl last)
    · exact .inr (.inr (noRoom.trans proper.mul_ten_le))
  · rename_i tooLong
    have long := Nat.not_lt.mp tooLong
    have many := maxScale_lt_of_bound_le positive long
    obtain ⟨fewer, rfl⟩ := Nat.exists_eq_succ_of_ne_zero (Nat.ne_zero_of_lt many)
    have scale_eq := proper.scale_eq
    push_cast at scale_eq
    refine ⟨fewer, ?_, ?_, ?_, ?_, ?_, .inr (.inr long)⟩ <;> dsimp only
    · omega
    · rw [Nat.succ_eq_add_one, pow_succ, roundDiv_mul_right _ _ _ (by decide)]
    · -- The quotient is too long by a few digits only.
      refine Nat.lt_of_le_sub_one (by decide) (roundDiv_le (by positivity) ?_)
      have next : state.quotient + 1 ≤ (mantissaBound - 1) * 10 := by
        simp only [mantissaBound] at small ⊢
        omega
      calc 10 ^ (fewer + 1) ≤ (state.quotient + 1) * divisor := by
            have less := proper.less
            rw [Nat.add_one_mul]
            omega
        _ ≤ (mantissaBound - 1) * 10 * divisor := Nat.mul_le_mul_right _ next
        _ = (mantissaBound - 1) * (divisor * 10) := by ring
    · omega
    · omega

/-- A division comes to the nearest quotient, to as many digits as there is room for. -/
theorem run (proper : Proper shift divisor digits state) (small : state.quotient < mantissaBound + 10 ^ 9)
    (scale_le : state.scale ≤ maxScale) (shift_le : shift ≤ maxScale)
    (enough : ((maxScale : ℤ) - state.scale).toNat < fuel) :
    ∃ digits, Ended shift divisor digits (state.run divisor fuel) := by
  induction fuel generalizing state digits with
  | zero => omega
  | succ fuel inductionHypothesis =>
      unfold Division.run
      by_cases nothing : state.remainder = 0
      · rw [if_pos nothing]
        split
        · rename_i nonneg
          exact proper.exists_ended small nonneg scale_le shift_le (.inl nothing)
        · -- The decimals of the divisor are not made up for, so the quotient is short.
          have brought := proper.bringDown (min 9 (-state.scale).toNat)
          have scale_eq := brought.scale_eq
          simp only [Division.bringDown] at scale_eq
          refine inductionHypothesis brought (Nat.lt_of_le_of_lt brought.quotient_le ?_) ?_ ?_
          · have powers : 10 ^ (digits + min 9 (-state.scale).toNat) ≤ 10 ^ maxScale :=
              Nat.pow_le_pow_right (by decide) (by omega)
            have less : 10 ^ maxScale < mantissaBound := by decide
            omega
          · simp only [Division.bringDown]
            omega
          · simp only [Division.bringDown]
            omega
      · rw [if_neg nothing]
        have proper' : Proper shift divisor digits { state with broughtDown := true } :=
          ⟨proper.total, proper.less, proper.scale_eq⟩
        dsimp only
        split
        · rename_i noRoom
          have full := of_room_eq_zero noRoom
          refine proper'.exists_ended small ?_ scale_le shift_le (.inr (full.imp (le_antisymm scale_le) id))
          rcases full with last | noRoom
          · exact Int.le_trans (Int.natCast_nonneg _) last
          · have many := maxScale_lt_of_bound_le proper'.positive (noRoom.trans proper'.mul_ten_le)
            have scale_eq := proper'.scale_eq
            omega
        · rename_i hasRoom
          obtain ⟨few, within, fits⟩ := of_room_ne_zero hasRoom
          refine inductionHypothesis (proper'.bringDown _) (proper'.bringDown_lt few fits) within ?_
          simp only [Division.bringDown] at hasRoom within ⊢
          omega

end Proper

end Division

/-! ### Trailing zeros -/

/-- Zeros that are dropped behind a mantissa do not change the number. -/
theorem stripZeros_div (places : ℕ) (parts : ℕ × ℕ) :
    ((stripZeros places parts).1 : ℚ) / 10 ^ (stripZeros places parts).2 = parts.1 / 10 ^ parts.2 := by
  unfold stripZeros
  split
  · rename_i strip
    obtain ⟨within, zeros⟩ := strip
    have digits : parts.1 = parts.1 / 10 ^ places * 10 ^ places :=
      (Nat.div_mul_cancel (Nat.dvd_of_mod_eq_zero zeros)).symm
    obtain ⟨left, total⟩ := Nat.exists_eq_add_of_le within
    dsimp only
    rw [total, Nat.add_sub_cancel_left, pow_add]
    nth_rewrite 2 [digits]
    push_cast
    field_simp
  · rfl

theorem stripEights_div (fuel : ℕ) (parts : ℕ × ℕ) :
    ((stripEights fuel parts).1 : ℚ) / 10 ^ (stripEights fuel parts).2 = parts.1 / 10 ^ parts.2 := by
  induction fuel generalizing parts with
  | zero => rfl
  | succ fuel inductionHypothesis =>
      unfold stripEights
      split
      · rw [inductionHypothesis, stripZeros_div]
      · rfl

theorem stripTrailing_div (mantissa scale : ℕ) :
    ((stripTrailing mantissa scale).1 : ℚ) / 10 ^ (stripTrailing mantissa scale).2 = mantissa / 10 ^ scale := by
  rw [stripTrailing, stripZeros_div, stripZeros_div, stripZeros_div, stripEights_div]

/-- Zeros that are dropped make neither the mantissa nor the scale larger. -/
theorem stripZeros_le (places : ℕ) (parts : ℕ × ℕ) :
    (stripZeros places parts).1 ≤ parts.1 ∧ (stripZeros places parts).2 ≤ parts.2 := by
  unfold stripZeros
  split
  · exact ⟨Nat.div_le_self _ _, Nat.sub_le _ _⟩
  · exact ⟨Nat.le_refl _, Nat.le_refl _⟩

theorem stripEights_le (fuel : ℕ) (parts : ℕ × ℕ) :
    (stripEights fuel parts).1 ≤ parts.1 ∧ (stripEights fuel parts).2 ≤ parts.2 := by
  induction fuel generalizing parts with
  | zero => exact ⟨Nat.le_refl _, Nat.le_refl _⟩
  | succ fuel inductionHypothesis =>
      unfold stripEights
      split
      · exact (inductionHypothesis _).imp (Nat.le_trans · (stripZeros_le 8 parts).1)
          (Nat.le_trans · (stripZeros_le 8 parts).2)
      · exact ⟨Nat.le_refl _, Nat.le_refl _⟩

theorem stripTrailing_le (mantissa scale : ℕ) :
    (stripTrailing mantissa scale).1 ≤ mantissa ∧ (stripTrailing mantissa scale).2 ≤ scale := by
  have eights := stripEights_le scale (mantissa, scale)
  have fours := stripZeros_le 4 (stripEights scale (mantissa, scale))
  have twos := stripZeros_le 2 (stripZeros 4 (stripEights scale (mantissa, scale)))
  have ones := stripZeros_le 1 (stripZeros 2 (stripZeros 4 (stripEights scale (mantissa, scale))))
  unfold stripTrailing
  dsimp only at eights
  omega

/-! ### Reciprocals -/

section Reciprocals

variable {d inverse : Decimal} {places : ℕ}

/-- One divided by a decimal, rounded to so many places, which are as many as there is room for. -/
structure Inverts (d inverse : Decimal) (places : ℕ) : Prop where
  negative_eq : inverse.negative = d.negative
  toRat_eq :
    inverse.toRat = signed d.negative (roundDiv .even (10 ^ (places + d.scale)) d.mantissa / 10 ^ places)
  places_le : places ≤ maxScale
  full : d.mantissa ∣ 10 ^ (places + d.scale) ∨ places = maxScale ∨
    mantissaBound ≤ roundDiv .even (10 ^ (places + d.scale + 1)) d.mantissa

/-- What is not zero has a reciprocal. -/
theorem exists_reciprocal? (positive : 0 < d.mantissa) :
    ∃ inverse places, d.reciprocal? = some inverse ∧ d.Inverts inverse places := by
  have start : Division.Proper d.scale d.mantissa 0 ⟨1 / d.mantissa, 1 % d.mantissa, -(d.scale : ℤ), false⟩ :=
    { total := by
        rw [pow_zero, Nat.mul_comm]
        exact Nat.div_add_mod 1 d.mantissa
      less := Nat.mod_lt _ positive
      scale_eq := by simp }
  have small : 1 / d.mantissa < mantissaBound + 10 ^ 9 := Nat.lt_of_le_of_lt (Nat.div_le_self _ _) (by decide)
  have scale_le := d.scale_le
  have enough : ((maxScale : ℤ) - -(d.scale : ℤ)).toNat < 2 * maxScale + 2 := by omega
  obtain ⟨digits, ended⟩ := start.run small (by simp) scale_le enough
  unfold reciprocal?
  rw [if_neg (Nat.ne_of_gt positive)]
  dsimp only
  generalize Division.run d.mantissa (2 * maxScale + 2) _ = state at ended
  rw [if_neg (Int.not_lt.mpr ended.nonneg)]
  obtain ⟨places, scale⟩ := Int.eq_ofNat_of_zero_le ended.nonneg
  have total : digits = places + d.scale := by
    have scale_eq := ended.scale_eq
    omega
  subst total
  have places_le : places ≤ maxScale := by
    have scale_le := ended.scale_le
    omega
  rw [scale, Int.toNat_natCast]
  -- Whether zeros are dropped or not, the parts fit, and they make up the quotient.
  have parts : ∀ parts : ℕ × ℕ, parts.1 ≤ state.quotient ∧ parts.2 ≤ places →
      (parts.1 : ℚ) / 10 ^ parts.2 = state.quotient / 10 ^ places →
        ∃ inverse places, ofParts? d.negative parts.1 parts.2 = some inverse ∧ d.Inverts inverse places := by
    intro parts le value
    have within : parts.1 < mantissaBound ∧ parts.2 ≤ maxScale :=
      ⟨Nat.lt_of_le_of_lt le.1 ended.fits, Nat.le_trans le.2 places_le⟩
    refine ⟨_, places, dif_pos within, rfl, ?_, places_le, ?_⟩
    · rw [toRat, value, ended.quotient_eq]
    · have full := ended.full
      rw [scale] at full
      exact_mod_cast full
  split
  · exact parts _ (stripTrailing_le _ _) (stripTrailing_div _ _)
  · exact parts _ ⟨Nat.le_refl _, Nat.le_refl _⟩ rfl

/-- Only zero has no reciprocal. -/
theorem inverts_of_reciprocal? (inverted : d.reciprocal? = some inverse) :
    0 < d.mantissa ∧ ∃ places, d.Inverts inverse places := by
  have positive : 0 < d.mantissa := by
    by_contra nothing
    unfold reciprocal? at inverted
    rw [if_pos (by omega)] at inverted
    cases inverted
  obtain ⟨inverse', places, inverted', inverts⟩ := exists_reciprocal? positive
  cases inverted.symm.trans inverted'
  exact ⟨positive, places, inverts⟩

/-- The reciprocal of a number greater than zero is not less than zero, and it is more exactly if the number is
not so large that the last decimal does not show it. -/
theorem Inverts.toRat_pos_iff (inverts : d.Inverts inverse places) (isPositive : 0 < d.toRat) :
    0 ≤ inverse.toRat ∧ (0 < inverse.toRat ↔ d.toRat < 2 * 10 ^ 28) := by
  have unsigned : d.negative = false ∧ d.mantissa ≠ 0 := by
    simpa [Decimal.isPositive] using isPositive_iff.mpr isPositive
  have positive : 0 < d.mantissa := Nat.pos_of_ne_zero unsigned.2
  have value := inverts.toRat_eq
  rw [unsigned.1, signed, if_neg Bool.false_ne_true] at value
  refine ⟨value ▸ by positivity, ?_⟩
  have shown : 0 < inverse.toRat ↔ d.mantissa < 2 * 10 ^ (places + d.scale) := by
    rw [value, div_pos_iff_of_pos_right (by positivity), Nat.cast_pos, roundDiv_even_pos_iff _ positive]
  have small : d.toRat < 2 * 10 ^ 28 ↔ d.mantissa < 2 * 10 ^ (maxScale + d.scale) := by
    rw [toRat, unsigned.1, signed, if_neg Bool.false_ne_true, div_lt_iff₀ (by positivity), mul_assoc, ← pow_add]
    exact_mod_cast Iff.rfl
  rw [shown, small]
  constructor
  · intro less
    have powers : 10 ^ (places + d.scale) ≤ 10 ^ (maxScale + d.scale) :=
      Nat.pow_le_pow_right (by decide) (Nat.add_le_add_right inverts.places_le _)
    omega
  · intro less
    rcases inverts.full with whole | rfl | long
    · have most := Nat.le_of_dvd (by positivity) whole
      omega
    · exact less
    · -- A quotient that has no room for another digit is not nothing.
      by_contra nothing
      have few : roundDiv .even (10 ^ (places + d.scale + 1)) d.mantissa ≤ 5 := by
        refine roundDiv_le positive ?_
        rw [pow_succ]
        omega
      have bound : 5 < mantissaBound := by decide
      omega

/-- Sign and magnitude of a reciprocal, to any number of places. -/
theorem toRat_inv (d : Decimal) (places : ℕ) :
    d.toRat⁻¹ = signed d.negative ((10 ^ (places + d.scale) : ℕ) / d.mantissa / 10 ^ places) := by
  have magnitude : ((d.mantissa : ℚ) / 10 ^ d.scale)⁻¹
      = (10 ^ (places + d.scale) : ℕ) / d.mantissa / 10 ^ places := by
    rw [inv_div, pow_add]
    push_cast
    field_simp
  rw [← magnitude, toRat]
  cases d.negative <;> simp [signed]

/-- A reciprocal is rounded by a part in `10 ^ 28`, of one or of the reciprocal. -/
theorem abs_reciprocal?_sub_le (inverted : d.reciprocal? = some inverse) :
    |inverse.toRat - d.toRat⁻¹| ≤ (1 + |d.toRat⁻¹|) / 10 ^ 28 := by
  obtain ⟨positive, places, inverts⟩ := inverts_of_reciprocal? inverted
  rw [inverts.toRat_eq, toRat_inv d places, abs_signed_sub_signed, abs_signed _ (by positivity)]
  rcases inverts.full with exact | full
  · obtain ⟨quotient, whole⟩ := exact
    have positive' : (0 : ℚ) < d.mantissa := by exact_mod_cast positive
    rw [whole, roundDiv_mul_left _ _ positive, Nat.cast_mul, mul_div_cancel_left₀ _ positive'.ne', sub_self,
      abs_zero]
    positivity
  · have unit : |(roundDiv .even (10 ^ (places + d.scale)) d.mantissa : ℚ) / 10 ^ places
        - (10 ^ (places + d.scale) : ℕ) / d.mantissa / 10 ^ places| ≤ 1 / 2 / 10 ^ places := by
      rw [div_sub_div_same, abs_div, abs_of_pos (by positivity : (0 : ℚ) < 10 ^ places)]
      exact div_le_div_of_nonneg_right (abs_roundDiv_sub_le _ _ positive) (by positivity)
    refine unit.trans (half_unit_le (by positivity) (full.imp Eq.ge fun long => ?_))
    have near := (abs_le.mp (abs_roundDiv_sub_le .even (10 ^ (places + d.scale + 1)) positive)).2
    have long' : (mantissaBound : ℚ) ≤ roundDiv .even (10 ^ (places + d.scale + 1)) d.mantissa := by
      exact_mod_cast long
    have further : (10 ^ (places + d.scale) : ℕ) / (d.mantissa : ℚ) / 10 ^ places * 10 ^ (places + 1)
        = (10 ^ (places + d.scale + 1) : ℕ) / d.mantissa := by
      push_cast
      rw [pow_succ _ places, pow_succ _ (places + d.scale)]
      field_simp
    rw [further]
    linarith

end Reciprocals

end Passbook.Decimal

import Passbook.Proofs.Decimal.Rounding
/-!
# Products

A product keeps as many of its decimals as a decimal has room for.  What it is rounded by is less than a part in
`10 ^ 28`; a factor that is a power of ten does not take a decimal further than the factor itself leads back; and
a product that is small enough to count in minor units keeps so many decimals that no half lies between it and
what it is rounded to.  Larger products keep fewer decimals, but they are never rounded to less than smaller ones.
-/

namespace Passbook.Decimal

-- Powers are those of natural numbers and integers, whatever else is in scope.
attribute [local instance (2000)] instPowNat

/-! ### Decimals that are dropped -/

variable {negative negative' : Bool} {mantissa scale count fuel drop places : ℕ} {d product : Decimal}

/-- A decimal is what is left of `± mantissa / 10 ^ scale` when `count` decimals are rounded away, and no fewer
would have done. -/
structure Fitted (negative : Bool) (mantissa scale count : ℕ) (d : Decimal) : Prop where
  negative_eq : d.negative = negative
  mantissa_eq : d.mantissa = roundDiv .even mantissa (10 ^ count)
  scale_eq : d.scale + count = scale
  needed : count = 0 ∨ d.scale = maxScale ∨ mantissaBound ≤ roundDiv .even mantissa (10 ^ (count - 1))

/-- Of the decimals that are too many no more are dropped than have to be. -/
theorem dropDigits_eq_some (dropped : dropDigits negative mantissa scale fuel drop = some d) :
    ∃ count, drop ≤ count ∧ count ≤ scale ∧
      ofParts? negative (roundDiv .even mantissa (10 ^ count)) (scale - count) = some d ∧
      ∀ fewer, drop ≤ fewer → fewer < count →
        ofParts? negative (roundDiv .even mantissa (10 ^ fewer)) (scale - fewer) = none := by
  induction fuel generalizing drop with
  | zero => cases dropped
  | succ fuel inductionHypothesis =>
      unfold dropDigits at dropped
      split at dropped
      · rename_i within
        split at dropped
        · rename_i fits
          cases dropped
          exact ⟨drop, Nat.le_refl _, within, fits, fun fewer atLeast less => by omega⟩
        · rename_i tooLarge
          obtain ⟨count, more, within', fits, minimal⟩ := inductionHypothesis dropped
          refine ⟨count, by omega, within', fits, fun fewer atLeast less => ?_⟩
          rcases Nat.eq_or_lt_of_le atLeast with rfl | beyond
          · exact tooLarge
          · exact minimal fewer beyond less
      · cases dropped

theorem mantissaBound_le_of_ofParts?_eq_none (noParts : ofParts? negative mantissa scale = none)
    (within : scale ≤ maxScale) : mantissaBound ≤ mantissa := by
  unfold ofParts? at noParts
  split at noParts
  · cases noParts
  · rename_i outside
    exact Nat.le_of_not_lt fun less => outside ⟨less, within⟩

/-- Where no decimals that are dropped are enough, the whole part does not fit. -/
theorem mantissaBound_le_of_dropDigits_eq_none (drop_le : drop ≤ scale) (enough : scale < drop + fuel)
    (dropped : dropDigits negative mantissa scale fuel drop = none) :
    mantissaBound ≤ roundDiv .even mantissa (10 ^ scale) := by
  induction fuel generalizing drop with
  | zero => omega
  | succ fuel inductionHypothesis =>
      unfold dropDigits at dropped
      rw [if_pos drop_le] at dropped
      split at dropped
      · cases dropped
      · rename_i tooLarge
        rcases Nat.eq_or_lt_of_le drop_le with rfl | less
        · exact mantissaBound_le_of_ofParts?_eq_none tooLarge (by omega)
        · exact inductionHypothesis less (by omega) dropped

theorem fitted_of_fit?_eq_some (fits : fit? negative mantissa scale = some d) :
    ∃ count, Fitted negative mantissa scale count d := by
  obtain ⟨count, atLeast, within, parts, minimal⟩ := dropDigits_eq_some fits
  obtain ⟨negative_eq, mantissa_eq, scale_eq⟩ := ofParts?_eq_some parts
  refine ⟨count, negative_eq, mantissa_eq, by omega, ?_⟩
  rcases Nat.eq_or_lt_of_le atLeast with first | beyond
  · rcases Nat.le_total scale maxScale with short | long
    · exact .inl (by omega)
    · exact .inr (.inl (by omega))
  · have tooLarge := minimal (count - 1) (by omega) (by omega)
    exact .inr (.inr (mantissaBound_le_of_ofParts?_eq_none tooLarge (by omega)))

theorem mantissaBound_le_of_fit?_eq_none (noFit : fit? negative mantissa scale = none) :
    mantissaBound ≤ roundDiv .even mantissa (10 ^ scale) :=
  mantissaBound_le_of_dropDigits_eq_none (by omega) (by omega) noFit

/-- A number with a mantissa that fits has as many decimals as there is room for. -/
theorem exists_fit? (fits : mantissa < mantissaBound) (negative : Bool) (scale : ℕ) :
    ∃ d, fit? negative mantissa scale = some d := by
  cases fitted : fit? negative mantissa scale with
  | some d => exact ⟨d, rfl⟩
  | none =>
      have bound := mantissaBound_le_of_fit?_eq_none fitted
      have le : roundDiv .even mantissa (10 ^ scale) ≤ mantissa :=
        roundDiv_le (by positivity) (Nat.le_mul_of_pos_right _ (by positivity))
      omega

namespace Fitted

/-- The number that is rounded, the last decimal that is kept being the unit. -/
theorem magnitude_eq (fitted : Fitted negative mantissa scale count d) :
    (mantissa : ℚ) / 10 ^ scale = mantissa / 10 ^ count / 10 ^ d.scale := by
  rw [← fitted.scale_eq, div_div, ← pow_add, Nat.add_comm]

/-- Where decimals were dropped although there was room for more of them, one digit more is too many. -/
theorem bound_le (fitted : Fitted negative mantissa scale count d) (dropped : count ≠ 0)
    (room : d.scale ≠ maxScale) :
    (mantissaBound - 1 / 2 : ℚ) ≤ mantissa / 10 ^ scale * 10 ^ (d.scale + 1) := by
  have bound := (fitted.needed.resolve_left dropped).resolve_left room
  have bound' : (mantissaBound : ℚ) ≤ roundDiv .even mantissa (10 ^ (count - 1)) := by exact_mod_cast bound
  have near := abs_roundDiv_sub_le .even mantissa (by positivity : 0 < 10 ^ (count - 1))
  obtain ⟨before, rfl⟩ := Nat.exists_eq_succ_of_ne_zero dropped
  have same : (mantissa : ℚ) / 10 ^ scale * 10 ^ (d.scale + 1) = mantissa / (10 ^ before : ℕ) := by
    rw [fitted.magnitude_eq]
    push_cast
    rw [pow_succ, pow_succ]
    field_simp
  rw [same]
  rw [Nat.succ_sub_one] at bound' near
  have := (abs_le.mp near).2
  linarith

/-- Sign and magnitude of what is left. -/
theorem toRat_eq (fitted : Fitted negative mantissa scale count d) :
    d.toRat = signed negative (d.mantissa / 10 ^ d.scale) := by
  rw [toRat, fitted.negative_eq]

/-- The last decimal that is kept is rounded by a half at most. -/
theorem abs_mantissa_sub_le (fitted : Fitted negative mantissa scale count d) :
    |(d.mantissa : ℚ) - mantissa / 10 ^ count| ≤ 1 / 2 := by
  rw [fitted.mantissa_eq]
  exact_mod_cast abs_roundDiv_sub_le .even mantissa (by positivity : 0 < 10 ^ count)

/-- Where nothing is dropped nothing is rounded. -/
theorem eq_of_kept (fitted : Fitted negative mantissa scale count d) (kept : count = 0) :
    (d.mantissa : ℚ) / 10 ^ d.scale = mantissa / 10 ^ scale := by
  subst kept
  have exact := roundDiv_mul_left .even mantissa Nat.one_pos
  rw [Nat.one_mul] at exact
  rw [fitted.magnitude_eq, fitted.mantissa_eq, pow_zero, pow_zero, exact, div_one]

/-- What is rounded away is a part in `10 ^ 28`, of one or of the number. -/
theorem abs_sub_le (fitted : Fitted negative mantissa scale count d) :
    |d.toRat - signed negative (mantissa / 10 ^ scale)| ≤ (1 + mantissa / 10 ^ scale) / 10 ^ 28 := by
  rw [fitted.toRat_eq, abs_signed_sub_signed]
  by_cases kept : count = 0
  · rw [fitted.eq_of_kept kept, sub_self, abs_zero]
    positivity
  have positive : (0 : ℚ) < 10 ^ d.scale := by positivity
  have unit : |(d.mantissa : ℚ) / 10 ^ d.scale - mantissa / 10 ^ scale| ≤ 1 / 2 / 10 ^ d.scale := by
    rw [fitted.magnitude_eq, div_sub_div_same, abs_div, abs_of_pos positive]
    exact div_le_div_of_nonneg_right fitted.abs_mantissa_sub_le positive.le
  refine unit.trans (half_unit_le (by positivity) ?_)
  by_cases last : d.scale = maxScale
  · exact .inl last.ge
  · exact .inr (fitted.bound_le kept last)

/-- Rounding does not take a number below one that has no more decimals than are kept. -/
theorem le_mantissa (fitted : Fitted negative mantissa scale count d) {grid : ℕ}
    (le : (grid : ℚ) / 10 ^ d.scale ≤ mantissa / 10 ^ scale) : grid ≤ d.mantissa := by
  rw [fitted.magnitude_eq, div_le_div_iff_of_pos_right (by positivity), le_div_iff₀ (by positivity)] at le
  rw [fitted.mantissa_eq]
  exact le_roundDiv (by positivity) (by exact_mod_cast le)

/-- Nor does it take it above one. -/
theorem mantissa_le (fitted : Fitted negative mantissa scale count d) {grid : ℕ}
    (ge : (mantissa : ℚ) / 10 ^ scale ≤ grid / 10 ^ d.scale) : d.mantissa ≤ grid := by
  rw [fitted.magnitude_eq, div_le_div_iff_of_pos_right (by positivity), div_le_iff₀ (by positivity)] at ge
  rw [fitted.mantissa_eq]
  exact roundDiv_le (by positivity) (by exact_mod_cast ge)

/-- Rounded to more decimals than are counted in, a number stays on its side of a half. -/
theorem keepsHalves (fitted : Fitted negative mantissa scale count d) (fine : places < d.scale) :
    KeepsHalves (mantissa / 10 ^ scale * 10 ^ places) (d.mantissa / 10 ^ d.scale * 10 ^ places) := by
  intro k
  obtain ⟨further, more⟩ := Nat.exists_eq_add_of_lt fine
  -- A half is a number with as many decimals.
  have half : (k : ℚ) + 1 / 2 = ((10 * k + 5) * 10 ^ further : ℕ) / 10 ^ d.scale * 10 ^ places := by
    rw [more]
    push_cast
    rw [pow_succ, pow_add]
    field_simp
    ring
  have positive : (0 : ℚ) < 10 ^ places := by positivity
  have positive' : (0 : ℚ) < 10 ^ d.scale := by positivity
  rw [half, mul_le_mul_iff_of_pos_right positive, mul_le_mul_iff_of_pos_right positive,
    mul_le_mul_iff_of_pos_right positive, mul_le_mul_iff_of_pos_right positive,
    div_le_div_iff_of_pos_right positive', div_le_div_iff_of_pos_right positive', Nat.cast_le, Nat.cast_le]
  exact ⟨fitted.le_mantissa, fitted.mantissa_le⟩

/-- Rounded to no more decimals than are counted in, a number is far out of range. -/
theorem large (fitted : Fitted negative mantissa scale count d) (dropped : count ≠ 0) (coarse : d.scale ≤ places)
    (fewPlaces : places < maxScale) :
    (2 ^ 64 : ℚ) ≤ mantissa / 10 ^ scale * 10 ^ places ∧
      (2 ^ 64 : ℚ) ≤ d.mantissa / 10 ^ d.scale * 10 ^ places := by
  have long := fitted.bound_le dropped (by omega)
  have bound : (10 * 2 ^ 64 : ℚ) ≤ mantissaBound - 1 / 2 := by norm_num [mantissaBound]
  have powers : (10 : ℚ) ^ d.scale ≤ 10 ^ places := pow_le_pow_right₀ (by norm_num) coarse
  have exact : (2 ^ 64 : ℚ) ≤ mantissa / 10 ^ scale * 10 ^ d.scale := by
    rw [pow_succ, ← mul_assoc] at long
    linarith
  have rounded : (2 ^ 64 : ℚ) ≤ d.mantissa := by
    have grid : 2 ^ 64 ≤ d.mantissa := fitted.le_mantissa <| by
      rw [div_le_iff₀ (by positivity)]
      exact_mod_cast exact
    exact_mod_cast grid
  constructor
  · exact exact.trans (mul_le_mul_of_nonneg_left powers (by positivity))
  · calc (2 ^ 64 : ℚ) ≤ d.mantissa := rounded
      _ = d.mantissa / 10 ^ d.scale * 10 ^ d.scale := (div_mul_cancel₀ _ (by positivity)).symm
      _ ≤ d.mantissa / 10 ^ d.scale * 10 ^ places := mul_le_mul_of_nonneg_left powers (by positivity)

/-- A number that is counted in fewer places than a decimal has stays on its side of each half, if it is not far
out of range. -/
theorem keepsHalves_or_large (fitted : Fitted negative mantissa scale count d) (fewPlaces : places < maxScale) :
    KeepsHalves (mantissa / 10 ^ scale * 10 ^ places) (d.mantissa / 10 ^ d.scale * 10 ^ places) ∨
      (2 ^ 64 : ℚ) ≤ mantissa / 10 ^ scale * 10 ^ places ∧
        (2 ^ 64 : ℚ) ≤ d.mantissa / 10 ^ d.scale * 10 ^ places := by
  rcases Nat.lt_or_ge places d.scale with fine | coarse
  · exact .inl (fitted.keepsHalves fine)
  · by_cases kept : count = 0
    · rw [fitted.eq_of_kept kept]
      exact .inl fun k => ⟨id, id⟩
    · exact .inr (fitted.large kept coarse fewPlaces)

/-- A number that fits as it is keeps all of its decimals. -/
theorem kept_of_fits (fitted : Fitted negative mantissa scale count d) (fits : mantissa < mantissaBound)
    (short : scale ≤ maxScale) : count = 0 := by
  by_contra dropped
  have scale_eq := fitted.scale_eq
  have less : roundDiv .even mantissa (10 ^ (count - 1)) ≤ mantissa :=
    roundDiv_le (by positivity) (Nat.le_mul_of_pos_right _ (by positivity))
  have needed := fitted.needed
  omega

/-- Zeros behind the last place of a decimal are dropped before any other digit. -/
theorem toRat_of_zeros {zeros : ℕ} (fitted : Fitted d.negative (d.mantissa * 10 ^ zeros) d.scale count product) :
    product.toRat = d.toRat * 10 ^ zeros := by
  have few : count ≤ zeros := by
    by_contra more
    have small := d.scale_le
    have scale_eq := fitted.scale_eq
    have fits := d.mantissa_lt
    have short : roundDiv .even (d.mantissa * 10 ^ zeros) (10 ^ (count - 1)) ≤ d.mantissa :=
      roundDiv_le (by positivity) (Nat.mul_le_mul_left _ (Nat.pow_le_pow_right (by decide) (by omega)))
    have needed := fitted.needed
    omega
  obtain ⟨left, rfl⟩ := Nat.exists_eq_add_of_le few
  have digits : d.mantissa * 10 ^ (count + left) = 10 ^ count * (d.mantissa * 10 ^ left) := by ring
  have mantissa_eq := fitted.mantissa_eq
  rw [digits, roundDiv_mul_left _ _ (by positivity)] at mantissa_eq
  rw [fitted.toRat_eq, toRat, signed_mul, mantissa_eq, ← fitted.scale_eq]
  congr 1
  push_cast
  field_simp
  ring

section Order

variable {mantissa' count' : ℕ} {d' : Decimal}

/-- A larger number does not keep more decimals. -/
theorem count_le (fitted : Fitted negative mantissa scale count d)
    (fitted' : Fitted negative' mantissa' scale count' d') (le : mantissa ≤ mantissa') : count ≤ count' := by
  by_contra more
  have total := fitted.scale_eq
  have total' := fitted'.scale_eq
  have within' := d'.scale_le
  -- The smaller number would not have fitted with the decimals that the larger one keeps.
  have long : mantissaBound ≤ roundDiv .even mantissa (10 ^ (count - 1)) := by
    rcases fitted.needed with none | last | long
    · omega
    · omega
    · exact long
  have fewer : mantissa * 10 ^ count' ≤ mantissa' * 10 ^ (count - 1) :=
    Nat.mul_le_mul le (Nat.pow_le_pow_right (by decide) (by omega))
  have fits := d'.mantissa_lt
  rw [fitted'.mantissa_eq] at fits
  have order := roundDiv_le_roundDiv .even (by positivity) (by positivity) fewer
  omega

/-- What is too long with one decimal more still comes to the bound without it, in units of that decimal. -/
theorem mantissaBound_le_ten_mul (long : mantissaBound ≤ roundDiv .even mantissa (10 ^ count)) :
    mantissaBound ≤ 10 * roundDiv .even mantissa (10 ^ (count + 1)) := by
  have positive : 0 < 10 ^ count := by positivity
  obtain ⟨-, above⟩ := roundDiv_within .even mantissa positive
  obtain ⟨below, -⟩ := roundDiv_within .even mantissa (by positivity : 0 < 10 ^ (count + 1))
  rw [pow_succ] at below ⊢
  generalize roundDiv .even mantissa (10 ^ count) = longer at long above
  generalize roundDiv .even mantissa (10 ^ count * 10) = shorter at below ⊢
  generalize 10 ^ count = unit at positive above below
  have scaled : 2 * longer * unit ≤ (20 * shorter + 11) * unit := by linarith
  have unscaled := Nat.le_of_mul_le_mul_right scaled positive
  -- The last digit of the bound is what makes up for both roundings.
  simp only [mantissaBound] at long ⊢
  omega

/-- A larger number is not rounded to a smaller one, also where it keeps fewer decimals. -/
theorem div_le_div_of_le (fitted : Fitted negative mantissa scale count d)
    (fitted' : Fitted negative' mantissa' scale count' d') (le : mantissa ≤ mantissa') :
    (d.mantissa : ℚ) / 10 ^ d.scale ≤ d'.mantissa / 10 ^ d'.scale := by
  have total := fitted.scale_eq
  have total' := fitted'.scale_eq
  obtain ⟨more, rfl⟩ := Nat.exists_eq_add_of_le (fitted.count_le fitted' le)
  have scale_eq : d.scale = d'.scale + more := by omega
  suffices shifted : d.mantissa ≤ d'.mantissa * 10 ^ more by
    rw [scale_eq, div_le_div_iff₀ (by positivity) (by positivity), pow_add, mul_comm (10 ^ d'.scale : ℚ), ← mul_assoc]
    exact_mod_cast Nat.mul_le_mul_right _ shifted
  cases more with
  | zero =>
      rw [Nat.pow_zero, Nat.mul_one, fitted.mantissa_eq, fitted'.mantissa_eq]
      exact roundDiv_le_roundDiv_of_le le
  | succ more =>
      -- The larger number had to drop a decimal, so that what it has left is beyond all that still fits.
      have within := d.scale_le
      have long : mantissaBound ≤ roundDiv .even mantissa' (10 ^ (count + more)) := by
        rcases fitted'.needed with none | last | long
        · omega
        · omega
        · exact long
      have full := mantissaBound_le_ten_mul long
      rw [Nat.add_assoc, ← fitted'.mantissa_eq] at full
      have powers : d'.mantissa * 10 ≤ d'.mantissa * 10 ^ (more + 1) :=
        Nat.mul_le_mul_left _ (Nat.le_self_pow (by omega) 10)
      have fits := d.mantissa_lt
      omega

end Order

end Fitted

/-! ### Products -/

section Products

variable {a b : Decimal}

/-- Signs and magnitudes are multiplied apart. -/
theorem toRat_mul_toRat (a b : Decimal) :
    a.toRat * b.toRat =
      signed (a.negative != b.negative) ((a.mantissa * b.mantissa : ℕ) / 10 ^ (a.scale + b.scale)) := by
  have magnitudes : (a.mantissa : ℚ) / 10 ^ a.scale * (b.mantissa / 10 ^ b.scale)
      = (a.mantissa * b.mantissa : ℕ) / 10 ^ (a.scale + b.scale) := by
    rw [div_mul_div_comm, ← pow_add, Nat.cast_mul]
  rw [← magnitudes, toRat, toRat]
  cases a.negative <;> cases b.negative <;> simp [signed]

/-- A product is what it comes to, with as many of its decimals as there is room for. -/
theorem fitted_of_mul?_eq_some (short : a.scale + b.scale ≤ shortProductScale)
    (multiplied : a.mul? b = some product) :
    ∃ count fitted, product.toRat = fitted.toRat ∧
      Fitted (a.negative != b.negative) (a.mantissa * b.mantissa) (a.scale + b.scale) count fitted := by
  unfold mul? at multiplied
  split at multiplied
  · rename_i nothing
    have zero : a.mantissa * b.mantissa = 0 := by simpa [isZero] using nothing
    have small : a.mantissa * b.mantissa < mantissaBound := by
      rw [zero]
      decide
    obtain ⟨fitted, fits⟩ := exists_fit? small (a.negative != b.negative) (a.scale + b.scale)
    obtain ⟨count, isFitted⟩ := fitted_of_fit?_eq_some fits
    refine ⟨count, fitted, ?_, isFitted⟩
    have mantissa_eq := isFitted.mantissa_eq
    rw [zero, ← Nat.mul_zero (10 ^ count), roundDiv_mul_left _ _ (by positivity)] at mantissa_eq
    cases multiplied
    rw [toRat_of_mantissa_eq_zero rfl, toRat_of_mantissa_eq_zero mantissa_eq]
  · split at multiplied
    · rename_i vanishes
      have long : shortProductScale < a.scale + b.scale := by
        simpa only [decide_eq_true_eq] using ((Bool.and_eq_true _ _).mp vanishes).2
      omega
    · obtain ⟨count, isFitted⟩ := fitted_of_fit?_eq_some multiplied
      exact ⟨count, product, rfl, isFitted⟩

/-- Where there is no product its whole part does not fit. -/
theorem mantissaBound_le_of_mul?_eq_none (noProduct : a.mul? b = none) :
    mantissaBound ≤ roundDiv .even (a.mantissa * b.mantissa) (10 ^ (a.scale + b.scale)) := by
  unfold mul? at noProduct
  split at noProduct
  · cases noProduct
  · split at noProduct
    · cases noProduct
    · exact mantissaBound_le_of_fit?_eq_none noProduct

theorem le_abs_of_mul?_eq_none (noProduct : a.mul? b = none) : (2 ^ 64 : ℚ) ≤ |a.toRat * b.toRat| := by
  have bound : (mantissaBound : ℚ) ≤ roundDiv .even (a.mantissa * b.mantissa) (10 ^ (a.scale + b.scale)) := by
    exact_mod_cast mantissaBound_le_of_mul?_eq_none noProduct
  have near := (abs_le.mp (abs_roundDiv_sub_le .even (a.mantissa * b.mantissa)
    (by positivity : 0 < 10 ^ (a.scale + b.scale)))).2
  have large : (2 ^ 64 + 1 / 2 : ℚ) ≤ mantissaBound := by norm_num [mantissaBound]
  rw [toRat_mul_toRat, abs_signed _ (by positivity)]
  push_cast at near ⊢
  linarith

/-- A product is rounded by a part in `10 ^ 28`, of one or of the product. -/
theorem abs_mul?_sub_le (short : a.scale + b.scale ≤ shortProductScale)
    (multiplied : a.mul? b = some product) :
    |product.toRat - a.toRat * b.toRat| ≤ (1 + |a.toRat * b.toRat|) / 10 ^ 28 := by
  obtain ⟨count, fitted, same, isFitted⟩ := fitted_of_mul?_eq_some short multiplied
  rw [same, toRat_mul_toRat, abs_signed _ (by positivity)]
  exact isFitted.abs_sub_le

/-- A product that is counted in fewer places than a decimal has stays on its side of each half, if it is not far
out of range. -/
theorem keepsHalves_or_large (short : a.scale + b.scale ≤ shortProductScale)
    (multiplied : a.mul? b = some product) (fewPlaces : places < maxScale) :
    ∃ negative exact rounded, 0 ≤ exact ∧ 0 ≤ rounded ∧
      a.toRat * b.toRat * 10 ^ places = signed negative exact ∧
      product.toRat * 10 ^ places = signed negative rounded ∧
      (KeepsHalves exact rounded ∨ (2 ^ 64 ≤ exact ∧ 2 ^ 64 ≤ rounded)) := by
  obtain ⟨count, fitted, same, isFitted⟩ := fitted_of_mul?_eq_some short multiplied
  refine ⟨a.negative != b.negative, _, _, ?_, ?_, ?_, ?_, isFitted.keepsHalves_or_large fewPlaces⟩
  · positivity
  · positivity
  · rw [toRat_mul_toRat, signed_mul]
  · rw [same, isFitted.toRat_eq, signed_mul]

/-- A product that fits as it is is exact. -/
theorem toRat_of_mul?_of_fits (fits : a.mantissa * b.mantissa < mantissaBound)
    (short : a.scale + b.scale ≤ maxScale) (multiplied : a.mul? b = some product) :
    product.toRat = a.toRat * b.toRat := by
  have short' : a.scale + b.scale ≤ shortProductScale := Nat.le_trans short (by decide)
  obtain ⟨count, fitted, same, isFitted⟩ := fitted_of_mul?_eq_some short' multiplied
  rw [same, isFitted.toRat_eq, toRat_mul_toRat, isFitted.eq_of_kept (isFitted.kept_of_fits fits short)]

/-! #### Order

Numbers with equally many decimals are multiplied by one that is not negative. -/

variable {a' product' : Decimal}

/-- What is smaller has a product if what is larger has one. -/
theorem exists_mul?_of_abs_le (scale_eq : a.scale = a'.scale) (short : a'.scale + b.scale ≤ shortProductScale)
    (le : |a.toRat| ≤ |a'.toRat|) (multiplied : a'.mul? b = some product') :
    ∃ product, a.mul? b = some product := by
  cases noProduct : a.mul? b with
  | some product => exact ⟨product, rfl⟩
  | none =>
      obtain ⟨count, fitted, -, isFitted⟩ := fitted_of_mul?_eq_some short multiplied
      have long := mantissaBound_le_of_mul?_eq_none noProduct
      have total := isFitted.scale_eq
      have fewer : a.mantissa * b.mantissa * 10 ^ count ≤ a'.mantissa * b.mantissa * 10 ^ (a.scale + b.scale) :=
        Nat.mul_le_mul (Nat.mul_le_mul_right _ (mantissa_le_of_abs_le scale_eq le))
          (Nat.pow_le_pow_right (by decide) (by omega))
      have order := roundDiv_le_roundDiv .even (by positivity) (by positivity) fewer
      have fits := fitted.mantissa_lt
      rw [isFitted.mantissa_eq] at fits
      omega

theorem abs_mul?_le_abs_mul? (scale_eq : a.scale = a'.scale) (short : a'.scale + b.scale ≤ shortProductScale)
    (le : |a.toRat| ≤ |a'.toRat|) (multiplied : a.mul? b = some product)
    (multiplied' : a'.mul? b = some product') : |product.toRat| ≤ |product'.toRat| := by
  obtain ⟨_, fitted, same, isFitted⟩ := fitted_of_mul?_eq_some (scale_eq ▸ short) multiplied
  obtain ⟨_, fitted', same', isFitted'⟩ := fitted_of_mul?_eq_some short multiplied'
  rw [same, same', abs_toRat, abs_toRat]
  rw [scale_eq] at isFitted
  exact isFitted.div_le_div_of_le isFitted' (Nat.mul_le_mul_right _ (mantissa_le_of_abs_le scale_eq le))

/-- A product is nothing, or it has the sign of the factor that can be negative. -/
theorem mul?_toRat_cases (short : a.scale + b.scale ≤ shortProductScale) (unsigned : b.negative = false)
    (multiplied : a.mul? b = some product) :
    product.toRat = 0 ∨ 0 < (a.mantissa : ℚ) / 10 ^ a.scale ∧ product.toRat = signed a.negative |product.toRat| := by
  rcases Nat.eq_zero_or_pos a.mantissa with nothing | something
  · have zero_eq : a.mul? b = some zero := by simp [mul?, isZero, nothing]
    cases zero_eq.symm.trans multiplied
    exact .inl (toRat_of_mantissa_eq_zero rfl)
  · obtain ⟨_, fitted, same, isFitted⟩ := fitted_of_mul?_eq_some short multiplied
    refine .inr ⟨div_pos (by exact_mod_cast something) (by positivity), ?_⟩
    rw [same, abs_toRat, isFitted.toRat_eq, unsigned, Bool.bne_false]

theorem mul?_nonneg (short : a.scale + b.scale ≤ shortProductScale) (unsigned : b.negative = false)
    (nonneg : 0 ≤ a.toRat) (multiplied : a.mul? b = some product) : 0 ≤ product.toRat := by
  rcases mul?_toRat_cases short unsigned multiplied with nothing | ⟨positive, sign⟩
  · exact nothing.ge
  · rw [sign, (signed_nonneg_iff positive).mp nonneg]
    exact abs_nonneg _

theorem mul?_nonpos (short : a.scale + b.scale ≤ shortProductScale) (unsigned : b.negative = false)
    (nonpos : a.toRat ≤ 0) (multiplied : a.mul? b = some product) : product.toRat ≤ 0 := by
  rcases mul?_toRat_cases short unsigned multiplied with nothing | ⟨positive, sign⟩
  · exact nothing.le
  · rw [sign, (signed_nonpos_iff positive).mp nonpos]
    exact neg_nonpos.mpr (abs_nonneg _)

/-- Products are in the order of the numbers that are multiplied. -/
theorem mul?_le_mul? (scale_eq : a.scale = a'.scale) (short : a'.scale + b.scale ≤ shortProductScale)
    (unsigned : b.negative = false) (le : a.toRat ≤ a'.toRat) (multiplied : a.mul? b = some product)
    (multiplied' : a'.mul? b = some product') : product.toRat ≤ product'.toRat := by
  have short' : a.scale + b.scale ≤ shortProductScale := scale_eq ▸ short
  rcases le_total 0 a.toRat with nonneg | nonpos
  · have order := abs_mul?_le_abs_mul? scale_eq short (abs_le_abs_of_nonneg nonneg le) multiplied multiplied'
    rwa [abs_of_nonneg (mul?_nonneg short' unsigned nonneg multiplied),
      abs_of_nonneg (mul?_nonneg short unsigned (nonneg.trans le) multiplied')] at order
  · have below := mul?_nonpos short' unsigned nonpos multiplied
    rcases le_total 0 a'.toRat with nonneg' | nonpos'
    · exact below.trans (mul?_nonneg short unsigned nonneg' multiplied')
    · have order := abs_mul?_le_abs_mul? scale_eq.symm short' (abs_le_abs_of_nonpos nonpos' le) multiplied'
        multiplied
      rw [abs_of_nonpos below, abs_of_nonpos (mul?_nonpos short unsigned nonpos' multiplied')] at order
      exact neg_le_neg_iff.mp order

/-- Opposite numbers have opposite products. -/
theorem mul?_toRat_neg (scale_eq : a.scale = a'.scale) (short : a'.scale + b.scale ≤ shortProductScale)
    (unsigned : b.negative = false) (opposite : a'.toRat = -a.toRat) (multiplied : a.mul? b = some product)
    (multiplied' : a'.mul? b = some product') : product'.toRat = -product.toRat := by
  have short' : a.scale + b.scale ≤ shortProductScale := scale_eq ▸ short
  have magnitudes : |a.toRat| = |a'.toRat| := by rw [opposite, abs_neg]
  have same : |product.toRat| = |product'.toRat| :=
    (abs_mul?_le_abs_mul? scale_eq short magnitudes.le multiplied multiplied').antisymm
      (abs_mul?_le_abs_mul? scale_eq.symm short' magnitudes.ge multiplied' multiplied)
  rcases le_total 0 a.toRat with nonneg | nonpos
  · rw [abs_of_nonneg (mul?_nonneg short' unsigned nonneg multiplied),
      abs_of_nonpos (mul?_nonpos short unsigned (by linarith) multiplied')] at same
    linarith
  · rw [abs_of_nonpos (mul?_nonpos short' unsigned nonpos multiplied),
      abs_of_nonneg (mul?_nonneg short unsigned (by linarith) multiplied')] at same
    linarith

end Products

/-! ### Whole numbers -/

/-- A number without a fraction is its integer part. -/
theorem truncate_of_isInteger (whole : d.isInteger = true) : (d.truncate : ℚ) = d.toRat := by
  have digits : d.mantissa = 10 ^ d.scale * (d.mantissa / 10 ^ d.scale) := by
    have nothing : d.mantissa % 10 ^ d.scale = 0 := by simpa [isInteger] using whole
    exact (Nat.mul_div_cancel' (Nat.dvd_of_mod_eq_zero nothing)).symm
  have magnitude : (d.mantissa : ℚ) / 10 ^ d.scale = (d.mantissa / 10 ^ d.scale : ℕ) := by
    rw [div_eq_iff (by positivity), mul_comm]
    exact_mod_cast digits
  rw [toRat, magnitude, truncate, signed]
  split
  · rw [Int.cast_neg, Int.cast_natCast]
  · rw [Int.cast_natCast]

/-- A decimal that stands for a whole number has no fraction. -/
theorem isInteger_of_toRat_eq {n : ℤ} (whole : d.toRat = n) : d.isInteger = true := by
  have magnitude : (d.mantissa : ℚ) = (n.natAbs * 10 ^ d.scale : ℕ) := by
    rw [Nat.cast_mul, Nat.cast_pow, Nat.cast_ofNat, ← div_eq_iff (by positivity), ← abs_toRat, whole,
      Nat.cast_natAbs, Int.cast_abs]
  have digits : d.mantissa = n.natAbs * 10 ^ d.scale := by exact_mod_cast magnitude
  rw [isInteger, digits, Nat.mul_mod_left]
  rfl

end Passbook.Decimal

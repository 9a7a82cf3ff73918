import Passbook.Proofs.Binary.Nearest
import Passbook.Proofs.Decimal.Writing
/-!
# Fifteen digits come back

A decimal number of at most fifteen digits is the only one of so few digits that the magnitude covers to which it is
rounded.  So the shortest decimal form of that magnitude is the number itself.
-/

namespace Passbook

-- Powers are those of natural numbers and integers, whatever else is in scope.
attribute [local instance (2000)] instPowNat

/-- The number that is written with digits and an exponent. -/
def ScaledDigits.toRat (form : ScaledDigits) : ℚ := form.digits * (10 : ℚ) ^ form.exponent

namespace Double

open Decimal (roundDiv)

variable {x : Double} {n d : ℕ} {number : ℚ}

/-! ### Reading back -/

section Comparing

variable {a : ℕ} {k : ℤ}

/-- What is compared are the two numbers times a common factor. -/
private theorem exists_factor (a n : ℕ) (k : ℤ) (positive : 0 < d) :
    ∃ factor : ℚ, 0 < factor ∧ ((a * 10 ^ k.toNat * d : ℕ) : ℚ) = a * (10 : ℚ) ^ k * factor ∧
      ((n * 10 ^ (-k).toNat : ℕ) : ℚ) = n / d * factor := by
  have positive' : (0 : ℚ) < d := by exact_mod_cast positive
  obtain ⟨j, rfl | rfl⟩ := Int.eq_nat_or_neg k
  · refine ⟨d, positive', ?_, ?_⟩ <;> simp [positive'.ne']
  · refine ⟨d * 10 ^ j, by positivity, ?_, ?_⟩ <;> simp <;> field_simp

private theorem scaled_le_iff (positive : 0 < d) :
    a * 10 ^ k.toNat * d ≤ n * 10 ^ (-k).toNat ↔ a * (10 : ℚ) ^ k ≤ n / d := by
  obtain ⟨factor, some, left, right⟩ := exists_factor a n k positive
  rw [← Nat.cast_le (α := ℚ), left, right, mul_le_mul_iff_left₀ some]

private theorem scaled_ge_iff (positive : 0 < d) :
    n * 10 ^ (-k).toNat ≤ a * 10 ^ k.toNat * d ↔ (n : ℚ) / d ≤ a * (10 : ℚ) ^ k := by
  obtain ⟨factor, some, left, right⟩ := exists_factor a n k positive
  rw [← Nat.cast_le (α := ℚ), left, right, mul_le_mul_iff_left₀ some]

theorem isLE_compareScaled (positive : 0 < d) :
    (compareScaled a k n d).isLE = true ↔ a * (10 : ℚ) ^ k ≤ n / d :=
  Nat.isLE_compare.trans (scaled_le_iff positive)

theorem isGE_compareScaled (positive : 0 < d) :
    (compareScaled a k n d).isGE = true ↔ (n : ℚ) / d ≤ a * (10 : ℚ) ^ k :=
  Nat.isGE_compare.trans (scaled_ge_iff positive)

theorem isLT_compareScaled (positive : 0 < d) :
    (compareScaled a k n d).isLT = true ↔ a * (10 : ℚ) ^ k < n / d := by
  rw [Ordering.isLT_iff_eq_lt, compareScaled, Nat.compare_eq_lt, ← Nat.not_le, scaled_ge_iff positive, not_le]

theorem isGT_compareScaled (positive : 0 < d) :
    (compareScaled a k n d).isGT = true ↔ (n : ℚ) / d < a * (10 : ℚ) ^ k := by
  rw [Ordering.isGT_iff_eq_gt, compareScaled, Nat.compare_eq_gt, ← Nat.not_le, scaled_le_iff positive, not_le]

/-- What reads back is what the magnitude covers. -/
theorem readsBack_iff : x.readsBack a k = true ↔ x.Covers (a * (10 : ℚ) ^ k) := by
  have positive : 0 < (⟨1, x.exponent - 2⟩ : Double).toQuotient.2 := toQuotient_snd_pos _
  have quarter : ((⟨1, x.exponent - 2⟩ : Double).toQuotient.1 : ℚ) / (⟨1, x.exponent - 2⟩ : Double).toQuotient.2 =
      2 ^ (x.exponent - 2) := by
    rw [toQuotient_div, toRat, Nat.cast_one, one_mul]
  have ends : ∀ m : ℕ, ((m * (⟨1, x.exponent - 2⟩ : Double).toQuotient.1 : ℕ) : ℚ) /
      (⟨1, x.exponent - 2⟩ : Double).toQuotient.2 = m * 2 ^ (x.exponent - 2) := fun m => by
    rw [Nat.cast_mul, mul_div_assoc, quarter]
  unfold readsBack Covers
  dsimp only
  split
  · rename_i even
    rw [Bool.and_eq_true, isGE_compareScaled positive, isLE_compareScaled positive, ends, ends]
    simp [lower, upper, even]
  · rename_i odd
    rw [Bool.and_eq_true, isGT_compareScaled positive, isLT_compareScaled positive, ends, ends]
    have odd' : x.mantissa % 2 = 1 := by omega
    constructor
    · rintro ⟨above, below⟩
      exact ⟨above.le, below.le, fun _ => ⟨above, below⟩⟩
    · rintro ⟨_, _, inside⟩
      exact inside odd'

end Comparing

/-! ### The interval that is covered -/

/-- A number that is covered is half of the last bit from the magnitude at most. -/
theorem Covers.within (covers : x.Covers number) :
    number ≤ x.toRat + 2 ^ x.exponent / 2 ∧ x.toRat ≤ number + 2 ^ x.exponent / 2 := by
  obtain ⟨atLeast, atMost, _⟩ := covers
  have unit : (0 : ℚ) < 2 ^ (x.exponent - 2) := by positivity
  rw [toRat, zpow_eq_four_mul]
  have gaps : (x.halfGaps.1 : ℚ) ≤ 2 ∧ x.halfGaps.2 = 2 := by
    unfold halfGaps
    split <;> norm_num
  constructor
  · rw [upper, gaps.2] at atMost
    push_cast at atMost
    linarith
  · have below : (4 * x.mantissa : ℚ) - x.halfGaps.1 ≤ (4 * x.mantissa - x.halfGaps.1 : ℕ) := by
      have natural : 4 * x.mantissa ≤ 4 * x.mantissa - x.halfGaps.1 + x.halfGaps.1 := by omega
      have rational : (4 * x.mantissa : ℚ) ≤ (4 * x.mantissa - x.halfGaps.1 : ℕ) + x.halfGaps.1 := by
        exact_mod_cast natural
      linarith
    rw [lower] at atLeast
    nlinarith [gaps.1]

theorem toRat_of_full (full : 2 ^ 52 ≤ x.mantissa) : (2 : ℚ) ^ 52 * 2 ^ x.exponent ≤ x.toRat := by
  have full' : (2 : ℚ) ^ 52 ≤ x.mantissa := by exact_mod_cast full
  exact mul_le_mul_of_nonneg_right full' (by positivity)

/-! ### The leading digit -/

theorem lt_pow_digitCount (n : ℕ) : n < 10 ^ digitCount n :=
  (Nat.length_toDigits_le_iff (by decide) Nat.length_toDigits_pos).mp (Nat.le_refl _)

theorem pow_digitCount_le (positive : 0 < n) : 10 ^ (digitCount n - 1) ≤ n := by
  rcases Nat.eq_zero_or_pos (digitCount n - 1) with single | more
  · rw [single]
    exact positive
  · by_contra less
    have short := (Nat.length_toDigits_le_iff (by decide) more).mpr (Nat.not_le.mp less)
    unfold digitCount at *
    omega

/-- The leading digit of a quotient is that of its whole part, or, if the quotient is less than one, that of its
reciprocal tells. -/
theorem leadingExponent_spec (positive : 0 < n) (positive' : 0 < d) :
    (10 : ℚ) ^ leadingExponent n d ≤ n / d ∧ (n : ℚ) / d < 10 ^ (leadingExponent n d + 1) := by
  have dividend : (0 : ℚ) < n := by exact_mod_cast positive
  have divisor : (0 : ℚ) < d := by exact_mod_cast positive'
  unfold leadingExponent
  split
  · rename_i large
    have whole : 0 < n / d := Nat.div_pos large positive'
    have atLeast := pow_digitCount_le whole
    have less := lt_pow_digitCount (n / d)
    have some : 1 ≤ digitCount (n / d) := Nat.length_toDigits_pos
    generalize digitCount (n / d) = count at *
    obtain ⟨j, rfl⟩ := Nat.exists_eq_add_of_le some
    have atLeast' : 10 ^ j * d ≤ n := by
      rw [Nat.add_sub_cancel_left] at atLeast
      exact (Nat.le_div_iff_mul_le positive').mp atLeast
    have less' : n < 10 ^ (1 + j) * d := (Nat.div_lt_iff_lt_mul positive').mp less
    rw [show ((1 + j : ℕ) : ℤ) - 1 = (j : ℤ) by push_cast; ring,
      show (j : ℤ) + 1 = ((1 + j : ℕ) : ℤ) by push_cast; ring, zpow_natCast, zpow_natCast, le_div_iff₀ divisor,
      div_lt_iff₀ divisor]
    exact ⟨by exact_mod_cast atLeast', by exact_mod_cast less'⟩
  · rename_i small
    -- How many times the dividend is in the divisor, rounded up.
    have parts := Nat.div_add_mod (d + n - 1) n
    have rest := Nat.mod_lt (d + n - 1) positive
    generalize (d + n - 1) / n = times at *
    have several : 2 ≤ times := by
      by_contra few
      have one : n * times ≤ n * 1 := Nat.mul_le_mul_left n (by omega)
      omega
    obtain ⟨t, rfl⟩ := Nat.exists_eq_add_of_le several
    have atLeast := pow_digitCount_le (n := 2 + t - 1) (by omega)
    have less := lt_pow_digitCount (2 + t - 1)
    have some : 1 ≤ digitCount (2 + t - 1) := Nat.length_toDigits_pos
    generalize digitCount (2 + t - 1) = count at *
    obtain ⟨j, rfl⟩ := Nat.exists_eq_add_of_le some
    have above : n * 10 ^ j < d := by
      have more : n * 10 ^ j ≤ n * (2 + t - 1) := Nat.mul_le_mul_left n (by simpa using atLeast)
      have step : n * (2 + t) = n * (2 + t - 1) + n := by
        rw [← Nat.mul_succ]
        congr 1
        omega
      omega
    have below : d ≤ n * 10 ^ (1 + j) := by
      have more : n * (2 + t) ≤ n * 10 ^ (1 + j) := Nat.mul_le_mul_left n (by omega)
      omega
    rw [show -((1 + j : ℕ) : ℤ) + 1 = -(j : ℤ) by push_cast; ring, zpow_neg, zpow_neg, zpow_natCast, zpow_natCast,
      inv_le_iff_one_le_mul₀ (by positivity), div_lt_iff₀ divisor, inv_mul_eq_div, lt_div_iff₀ (by positivity),
      div_mul_eq_mul_div, one_le_div divisor]
    exact ⟨by exact_mod_cast below, by exact_mod_cast above⟩

/-! ### The number comes back -/

/-- The number is a whole number of units of a decimal place. -/
def OnGrid (place : ℤ) (number : ℚ) : Prop := ∃ a : ℕ, number = a * (10 : ℚ) ^ place

theorem OnGrid.of_le {place finer : ℤ} (le : finer ≤ place) (onGrid : OnGrid place number) : OnGrid finer number := by
  obtain ⟨a, rfl⟩ := onGrid
  obtain ⟨k, rfl⟩ := Int.le.dest le
  refine ⟨a * 10 ^ k, ?_⟩
  rw [zpow_add₀ (by norm_num), zpow_natCast]
  push_cast
  ring

/-- Two numbers of one grid that are less than a unit apart are one. -/
theorem OnGrid.eq_of_close {place : ℤ} {other : ℚ} (onGrid : OnGrid place number) (onGrid' : OnGrid place other)
    (below : number < other + 10 ^ place) (above : other < number + 10 ^ place) : number = other := by
  obtain ⟨a, rfl⟩ := onGrid
  obtain ⟨b, rfl⟩ := onGrid'
  have unit : (0 : ℚ) < 10 ^ place := by positivity
  have below' : a < b + 1 := by
    have scaled : (a : ℚ) * 10 ^ place < (b + 1) * 10 ^ place := by linarith
    exact_mod_cast lt_of_mul_lt_mul_right scaled unit.le
  have above' : b < a + 1 := by
    have scaled : (b : ℚ) * 10 ^ place < (a + 1) * 10 ^ place := by linarith
    exact_mod_cast lt_of_mul_lt_mul_right scaled unit.le
  rw [show a = b by omega]

/-- A number of fifteen digits at most: more than nothing, and a whole number, less than `10 ^ 15`, of units of some
decimal place. -/
structure Short (number : ℚ) (digits : ℕ) (place : ℤ) : Prop where
  positive : 0 < digits
  few : digits < 10 ^ 15
  number_eq : number = digits * (10 : ℚ) ^ place

section Short

variable {digits : ℕ} {place : ℤ}

theorem Short.lt (short : Short number digits place) : number < 10 ^ 15 * 10 ^ place := by
  have few : (digits : ℚ) < 10 ^ 15 := by exact_mod_cast short.few
  rw [short.number_eq]
  exact mul_lt_mul_of_pos_right few (by positivity)

theorem Short.unit_le (short : Short number digits place) : (10 : ℚ) ^ place ≤ number := by
  have some : (1 : ℚ) ≤ digits := by exact_mod_cast short.positive
  rw [short.number_eq]
  exact le_mul_of_one_le_left (by positivity) some

/-- The last bit of a magnitude that covers a short number is less than a unit of the last place of the number. -/
theorem Short.last_bit_lt (short : Short number digits place) (covers : x.Covers number) (full : 2 ^ 52 ≤ x.mantissa) :
    (2 : ℚ) ^ x.exponent < 10 ^ place := by
  have less := short.lt
  have close := covers.within.2
  have atLeast := toRat_of_full full
  have unit : (0 : ℚ) < 10 ^ place := by positivity
  by_contra large
  linarith

/-- So the magnitude does not reach a power of ten that the number does not reach. -/
theorem Short.leading_le (short : Short number digits place) (covers : x.Covers number) (full : 2 ^ 52 ≤ x.mantissa)
    {leading : ℤ} (reached : (10 : ℚ) ^ leading ≤ x.toRat) : (10 : ℚ) ^ leading ≤ number := by
  have lastBit := short.last_bit_lt covers full
  have close := covers.within.2
  by_contra less
  rw [not_le] at less
  have finer : place ≤ leading := by
    by_contra coarser
    have power : (10 : ℚ) ^ leading ≤ 10 ^ place := zpow_le_zpow_right₀ (by norm_num) (by omega)
    have unit := short.unit_le
    linarith
  have onGrid : OnGrid place ((10 : ℚ) ^ leading) := .of_le finer ⟨1, by simp⟩
  have same : number = 10 ^ leading :=
    OnGrid.eq_of_close ⟨digits, short.number_eq⟩ onGrid (by linarith) (by linarith)
  exact less.ne same

/-- The place of the last of so many significant digits. -/
def lastPlace (x : Double) (count : ℕ) : ℤ := leadingExponent x.toQuotient.1 x.toQuotient.2 - count + 1

/-- The magnitude in units of a decimal place, rounded. -/
def nearAt (x : Double) (k : ℤ) : ℕ :=
  roundDiv .even (x.toQuotient.1 * 10 ^ (-k).toNat) (x.toQuotient.2 * 10 ^ k.toNat)

theorem exists_withDigits?_eq (x : Double) (count : ℕ) :
    ∃ far, x.withDigits? count =
      if x.readsBack (x.nearAt (x.lastPlace count)) (x.lastPlace count) then
        some ⟨x.nearAt (x.lastPlace count), x.lastPlace count⟩
      else if x.readsBack far (x.lastPlace count) then some ⟨far, x.lastPlace count⟩
      else none := ⟨_, rfl⟩

/-- What is found with so many digits is covered. -/
theorem withDigits?_eq_some {count : ℕ} {form : ScaledDigits} (found : x.withDigits? count = some form) :
    form.exponent = x.lastPlace count ∧ x.Covers form.toRat := by
  obtain ⟨far, eq⟩ := x.exists_withDigits?_eq count
  rw [eq] at found
  split at found
  · rename_i reads
    cases found
    exact ⟨rfl, readsBack_iff.mp reads⟩
  · split at found
    · rename_i reads
      cases found
      exact ⟨rfl, readsBack_iff.mp reads⟩
    · cases found

/-- The magnitude in units of a decimal place is rounded to the number that it is less than half a unit away from. -/
theorem nearAt_eq {a : ℕ} {k : ℤ} (below : x.toRat < a * 10 ^ k + 10 ^ k / 2)
    (above : a * (10 : ℚ) ^ k < x.toRat + 10 ^ k / 2) : x.nearAt k = a := by
  have positive : 0 < x.toQuotient.2 * 10 ^ k.toNat := Nat.mul_pos x.toQuotient_snd_pos (by positivity)
  have unit : (0 : ℚ) < 10 ^ k := by positivity
  have quotient : ((x.toQuotient.1 * 10 ^ (-k).toNat : ℕ) : ℚ) / (x.toQuotient.2 * 10 ^ k.toNat : ℕ) =
      x.toRat / 10 ^ k := by
    rw [← x.toQuotient_div]
    obtain ⟨j, rfl | rfl⟩ := Int.eq_nat_or_neg k
    · simp [div_div]
    · simp [div_eq_mul_inv, mul_right_comm]
  obtain ⟨up, down, _⟩ := Decimal.roundDiv_even_bounds (x.toQuotient.1 * 10 ^ (-k).toNat) positive
  rw [quotient] at up down
  change (x.nearAt k : ℚ) ≤ _ at up
  change _ ≤ (x.nearAt k : ℚ) + _ at down
  have below' : x.toRat / 10 ^ k < a + 1 / 2 := by
    rw [div_lt_iff₀ unit]
    linarith
  have above' : (a : ℚ) - 1 / 2 < x.toRat / 10 ^ k := by
    rw [lt_div_iff₀ unit]
    linarith
  have less : (x.nearAt k : ℚ) < a + 1 := by linarith
  have more : (a : ℚ) < x.nearAt k + 1 := by linarith
  have less' : x.nearAt k < a + 1 := by exact_mod_cast less
  have more' : a < x.nearAt k + 1 := by exact_mod_cast more
  omega

theorem isSome_withDigits? {count a : ℕ} (covers : x.Covers (a * (10 : ℚ) ^ x.lastPlace count))
    (near : x.nearAt (x.lastPlace count) = a) : (x.withDigits? count).isSome = true := by
  obtain ⟨far, eq⟩ := x.exists_withDigits?_eq count
  rw [eq, near, if_pos (readsBack_iff.mpr covers)]
  rfl

/-- Fifteen digits are more than the bits of a magnitude can tell apart. -/
theorem last_bit_lt_place {leading : ℤ} (full : 2 ^ 52 ≤ x.mantissa) (less : x.toRat < 10 ^ (leading + 1)) :
    (2 : ℚ) ^ x.exponent < 10 ^ (leading - 14) := by
  have atLeast := toRat_of_full full
  have unit : (0 : ℚ) < 10 ^ (leading - 14) := by positivity
  have top : (10 : ℚ) ^ (leading + 1) = 10 ^ 15 * 10 ^ (leading - 14) := by
    rw [← zpow_natCast, ← zpow_add₀ (by norm_num)]
    congr 1
    push_cast
    ring
  rw [top] at less
  linarith

/-- A short number is a whole number of units of its fifteenth digit. -/
theorem Short.onGrid (short : Short number digits place) {leading : ℤ} (reached : (10 : ℚ) ^ leading ≤ number) :
    OnGrid (leading - 14) number := by
  refine .of_le ?_ ⟨digits, short.number_eq⟩
  have power : (10 : ℚ) ^ leading < 10 ^ (place + 15) := by
    rw [zpow_add₀ (by norm_num), mul_comm]
    exact reached.trans_lt short.lt
  have places := (zpow_lt_zpow_iff_right₀ (by norm_num)).mp power
  omega

/-- The shortest decimal form of a magnitude that covers a short number is that number. -/
theorem Short.toRat_shortest (short : Short number digits place) (covers : x.Covers number)
    (full : 2 ^ 52 ≤ x.mantissa) : x.shortest.toRat = number := by
  have mantissa : 0 < x.mantissa := Nat.lt_of_lt_of_le (Nat.two_pow_pos 52) full
  have positive : 0 < x.toQuotient.1 := Nat.mul_pos mantissa (Nat.two_pow_pos _)
  obtain ⟨reached, less⟩ := leadingExponent_spec positive x.toQuotient_snd_pos
  rw [x.toQuotient_div] at reached less
  have reached' := short.leading_le covers full reached
  set leading := leadingExponent x.toQuotient.1 x.toQuotient.2 with leading_eq
  have lastBit := last_bit_lt_place full less
  have onGrid := short.onGrid reached'
  obtain ⟨belowNumber, aboveNumber⟩ := covers.within
  -- Whatever is found with fifteen digits or fewer is the number, since nothing else on its grid is covered.
  have only : ∀ count ∈ List.range' 1 15, ∀ form, x.withDigits? count = some form → form.toRat = number := by
    intro count member form found
    obtain ⟨exponent, covers'⟩ := withDigits?_eq_some found
    obtain ⟨belowForm, aboveForm⟩ := covers'.within
    have few : count < 1 + 15 := (List.mem_range'_1.mp member).2
    have onGrid' : OnGrid (leading - 14) form.toRat := by
      refine .of_le ?_ ⟨form.digits, rfl⟩
      rw [exponent, lastPlace, ← leading_eq]
      omega
    exact onGrid'.eq_of_close onGrid (by linarith) (by linarith)
  have found : ((List.range' 1 15).findSome? x.withDigits?).isSome = true := by
    obtain ⟨a, rfl⟩ := onGrid
    have last : x.lastPlace 15 = leading - 14 := by
      rw [lastPlace, ← leading_eq]
      ring
    rw [← last] at covers lastBit belowNumber aboveNumber
    rw [List.findSome?_isSome_iff]
    exact ⟨15, by simp, isSome_withDigits? covers (nearAt_eq (by linarith) (by linarith))⟩
  obtain ⟨form, found⟩ := Option.isSome_iff_exists.mp found
  have all : List.range' 1 greatestCount = List.range' 1 15 ++ [16, 17] := by decide
  rw [shortest, all, List.findSome?_append, found, Option.some_or, Option.getD_some]
  obtain ⟨count, member, here⟩ := List.exists_of_findSome?_eq_some found
  exact only count member form here

end Short

end Double

end Passbook

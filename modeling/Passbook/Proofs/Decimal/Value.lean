import Mathlib.Algebra.Order.Field.Basic
import Mathlib.Data.Rat.Cast.Order
import Mathlib.Tactic.FieldSimp
import Mathlib.Tactic.Linarith
import Mathlib.Tactic.NormNum
import Mathlib.Tactic.Positivity
import Mathlib.Tactic.Ring
import Passbook.Decimal.Arithmetic
/-!
# Values of decimal numbers

The rational number that a decimal stands for, and the numbers that some decimal stands for.  A mantissa that
is full, since another digit fits neither it nor the scale, leaves no room for what comes behind it: a number
with more to it than such a mantissa is none that a decimal stands for.
-/

namespace Passbook.Decimal

-- Powers are those of natural numbers and integers, whatever else is in scope.
attribute [local instance (2000)] instPowNat

/-! ### Values -/

def signed (negative : Bool) (magnitude : ℚ) : ℚ := if negative then -magnitude else magnitude

theorem abs_signed (negative : Bool) {magnitude : ℚ} (nonneg : 0 ≤ magnitude) :
    |signed negative magnitude| = magnitude := by
  cases negative <;> simp [signed, abs_of_nonneg nonneg]

theorem abs_signed_sub_signed (negative : Bool) (magnitude other : ℚ) :
    |signed negative magnitude - signed negative other| = |magnitude - other| := by
  cases negative with
  | false => rfl
  | true =>
      simp only [signed, if_true]
      rw [neg_sub_neg, abs_sub_comm]

theorem signed_nonneg_iff {negative : Bool} {magnitude : ℚ} (positive : 0 < magnitude) :
    0 ≤ signed negative magnitude ↔ negative = false := by
  cases negative <;> simp [signed, positive, positive.le]

theorem signed_nonpos_iff {negative : Bool} {magnitude : ℚ} (positive : 0 < magnitude) :
    signed negative magnitude ≤ 0 ↔ negative = true := by
  cases negative <;> simp [signed, positive, positive.le]

theorem signed_mul (negative : Bool) (magnitude factor : ℚ) :
    signed negative magnitude * factor = signed negative (magnitude * factor) := by
  cases negative <;> simp [signed]

theorem signed_zero (negative : Bool) : signed negative 0 = 0 := by
  cases negative <;> simp [signed]

/-- The number that a decimal stands for. -/
def toRat (d : Decimal) : ℚ := signed d.negative (d.mantissa / 10 ^ d.scale)

theorem toRat_of_mantissa_eq_zero {d : Decimal} (nothing : d.mantissa = 0) : d.toRat = 0 := by
  rw [toRat, nothing, Nat.cast_zero, zero_div, signed_zero]

theorem abs_toRat (d : Decimal) : |d.toRat| = d.mantissa / 10 ^ d.scale :=
  abs_signed _ (by positivity)

/-- Of two numbers with equally many decimals the smaller magnitude has the smaller mantissa. -/
theorem mantissa_le_of_abs_le {d d' : Decimal} (scale_eq : d.scale = d'.scale) (le : |d.toRat| ≤ |d'.toRat|) :
    d.mantissa ≤ d'.mantissa := by
  rw [abs_toRat, abs_toRat, scale_eq, div_le_div_iff_of_pos_right (by positivity)] at le
  exact_mod_cast le

theorem isPositive_iff {d : Decimal} : d.isPositive = true ↔ 0 < d.toRat := by
  have magnitude : 0 < (d.mantissa : ℚ) / 10 ^ d.scale ↔ d.mantissa ≠ 0 := by
    rw [div_pos_iff_of_pos_right (by positivity), Nat.cast_pos, Nat.pos_iff_ne_zero]
  unfold isPositive toRat signed
  cases d.negative with
  | false => simp [magnitude]
  | true =>
      have notNegative : ¬ (d.mantissa : ℚ) / 10 ^ d.scale < 0 := not_lt.mpr (by positivity)
      simp [notNegative]

@[simp] theorem toRat_unsignZero (d : Decimal) : d.unsignZero.toRat = d.toRat := by
  unfold unsignZero
  split
  · rename_i nothing
    rw [toRat_of_mantissa_eq_zero nothing]
    exact toRat_of_mantissa_eq_zero nothing
  · rfl

theorem ofParts?_eq_some {negative : Bool} {mantissa scale : ℕ} {d : Decimal}
    (parts : ofParts? negative mantissa scale = some d) :
    d.negative = negative ∧ d.mantissa = mantissa ∧ d.scale = scale := by
  unfold ofParts? at parts
  split at parts
  · cases parts
    exact ⟨rfl, rfl, rfl⟩
  · cases parts

/-- A quotient that comes out even is not rounded. -/
theorem roundDiv_mul_left (tie : Tie) (quotient : ℕ) {divisor : ℕ} (positive : 0 < divisor) :
    roundDiv tie (divisor * quotient) divisor = quotient := by
  unfold roundDiv
  simp [Nat.mul_div_cancel_left _ positive, positive]

/-! ### Numbers that decimals stand for -/

/-- Some decimal stands for the number. -/
def Representable (number : ℚ) : Prop := ∃ d : Decimal, d.toRat = number

/-- A number that some decimal stands for has a mantissa and a scale within bounds. -/
theorem Representable.exists_parts {negative : Bool} {magnitude : ℚ} (nonneg : 0 ≤ magnitude)
    (representable : Representable (signed negative magnitude)) :
    ∃ mantissa scale : ℕ, mantissa < mantissaBound ∧ scale ≤ maxScale ∧
      magnitude * 10 ^ scale = mantissa := by
  obtain ⟨d, same⟩ := representable
  refine ⟨d.mantissa, d.scale, d.mantissa_lt, d.scale_le, ?_⟩
  have size : magnitude = d.mantissa / 10 ^ d.scale := by
    rw [← abs_toRat, same, abs_signed negative nonneg]
  rw [size]
  exact div_mul_cancel₀ _ (by positivity)

/-- A whole number and less than one more are whole together only if there is nothing more. -/
private theorem fraction_eq_zero {whole other : ℕ} {fraction : ℚ} (nonneg : 0 ≤ fraction) (less : fraction < 1)
    (same : (whole : ℚ) + fraction = other) : fraction = 0 := by
  have atLeast : (whole : ℚ) ≤ other := by linarith
  have below : (other : ℚ) < whole + 1 := by linarith
  have equal : other = whole := by
    have atLeast' : whole ≤ other := by exact_mod_cast atLeast
    have below' : other < whole + 1 := by exact_mod_cast below
    omega
  rw [equal] at same
  linarith

/-- Behind a mantissa that is full there is no room: if its digits and less than one of its last place make
a number that some decimal stands for, then there is nothing behind the digits. -/
theorem rest_eq_zero_of_full {negative : Bool} {mantissa scale : ℕ} {rest : ℚ} (nonneg : 0 ≤ rest)
    (less : rest < 1) (full : scale = maxScale ∨ (mantissaBound : ℚ) ≤ 10 * (mantissa + rest))
    (representable : Representable (signed negative ((mantissa + rest) / 10 ^ scale))) : rest = 0 := by
  obtain ⟨mantissa', scale', fits, small, same⟩ := representable.exists_parts (by positivity)
  have total : ((mantissa : ℚ) + rest) * 10 ^ scale' = mantissa' * 10 ^ scale := by
    rw [← same]
    field_simp
  rcases Nat.lt_or_ge scale scale' with longer | shorter
  · -- The other mantissa has one digit more at least, which does not fit.
    have bound : (mantissaBound : ℚ) ≤ 10 * (mantissa + rest) := by
      rcases full with last | full
      · omega
      · exact full
    obtain ⟨more, rfl⟩ := Nat.exists_eq_add_of_lt longer
    have larger : (mantissa' : ℚ) = (mantissa + rest) * 10 ^ (more + 1) := by
      have split : (10 : ℚ) ^ (scale + more + 1) = 10 ^ (more + 1) * 10 ^ scale := by ring
      rw [split, ← mul_assoc] at total
      exact (mul_right_cancel₀ (by positivity) total).symm
    have step : (mantissa + rest) * 10 ≤ (mantissa + rest) * (10 : ℚ) ^ (more + 1) := by
      have power : (10 : ℚ) ≤ 10 ^ (more + 1) := by
        have one : (1 : ℚ) ≤ 10 ^ more := one_le_pow₀ (by norm_num)
        rw [pow_succ]
        linarith
      exact mul_le_mul_of_nonneg_left power (by positivity)
    have fits' : (mantissa' : ℚ) < mantissaBound := by exact_mod_cast fits
    linarith
  · -- The other mantissa is no longer, so that the digits and the rest are a whole number.
    obtain ⟨less', rfl⟩ := Nat.exists_eq_add_of_le shorter
    have whole : (mantissa : ℚ) + rest = (mantissa' * 10 ^ less' : ℕ) := by
      have split : (10 : ℚ) ^ (scale' + less') = 10 ^ less' * 10 ^ scale' := by ring
      rw [split, ← mul_assoc] at total
      rw [Nat.cast_mul, Nat.cast_pow, Nat.cast_ofNat]
      exact mul_right_cancel₀ (by positivity) total
    exact fraction_eq_zero nonneg less whole

end Passbook.Decimal

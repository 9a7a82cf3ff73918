import Mathlib.Data.List.TakeWhile
import Passbook.Proofs.Json.Literals
/-!
# Numbers written again

A number that was read is written with its shortest digits, around the point or with an exponent.  If it was a whole
number of 64 bits or a number of fifteen digits, what is written is again a numeral of that number.
-/

namespace Passbook

-- Powers are those of natural numbers and integers, whatever else is in scope.
attribute [local instance (2000)] instPowNat

open Decimal (Numeral Plain appendRow Spells)

namespace Double

variable {x : Double} {number : ℚ} {digits : List Char} {leading : ℤ}

/-! ### The significant digits -/

/-- The digits of a number without zeros at its ends, the first of them in a place. -/
structure Digits (number : ℚ) (digits : List Char) (leading : ℤ) : Prop where
  plain : Plain digits
  something : digits ≠ []
  number_eq : number = appendRow 0 digits * (10 : ℚ) ^ (leading - (digits.length - 1))
  first : (10 : ℚ) ^ leading ≤ number
  last : appendRow 0 digits % 10 ≠ 0

theorem appendRow_zeros (n k : ℕ) : appendRow n (List.replicate k '0') = n * 10 ^ k := by
  induction k generalizing n with
  | zero => simp [appendRow]
  | succ k inductionHypothesis =>
      have zero : Decimal.digit? '0' = some 0 := rfl
      rw [List.replicate_succ, Decimal.appendRow_of_digit zero, inductionHypothesis, pow_succ]
      ring

theorem plain_zeros (k : ℕ) : Plain (List.replicate k '0') := fun c member => by
  rw [(List.mem_replicate.mp member).2]
  rfl

/-- A row of digits is the row without the zeros at its end, and those zeros. -/
theorem exists_zeros (row : List Char) :
    ∃ k, row = (row.reverse.dropWhile (· == '0')).reverse ++ List.replicate k '0' := by
  have parts : row.reverse = row.reverse.takeWhile (· == '0') ++ row.reverse.dropWhile (· == '0') :=
    List.takeWhile_append_dropWhile.symm
  have zeros : row.reverse.takeWhile (· == '0') =
      List.replicate (row.reverse.takeWhile (· == '0')).length '0' :=
    List.eq_replicate_of_mem fun c member => by simpa using List.mem_takeWhile_imp member
  refine ⟨(row.reverse.takeWhile (· == '0')).length, ?_⟩
  rw [← List.reverse_replicate, ← zeros, ← List.reverse_append, ← parts, List.reverse_reverse]

/-- A row of digits that does not end in a zero is no multiple of ten. -/
theorem appendRow_mod_ten {row : List Char} (plain : Plain row) (something : row ≠ [])
    (last : ∀ before, row ≠ before ++ ['0']) : appendRow 0 row % 10 ≠ 0 := by
  obtain ⟨before, c, rfl⟩ := List.eq_nil_or_concat' row |>.resolve_left something
  have isDigit := Decimal.digit?_eq_some (plain c (by simp))
  have small := Decimal.digit_le isDigit
  have notZero : c ≠ '0' := fun is => last before (by rw [is])
  rw [Decimal.appendRow_append, Decimal.appendRow_of_digit isDigit]
  have value : c.toNat - '0'.toNat ≠ 0 := by
    intro zero
    have atLeast : '0'.toNat ≤ c.toNat := by
      have digit := plain c (by simp)
      simp only [Char.isDigit, Bool.and_eq_true, decide_eq_true_eq] at digit
      exact digit.1
    exact notZero (Char.toNat_inj.mp (by omega))
  change (_ * 10 + _) % 10 ≠ 0
  omega

/-- What is left of a row does not end in a zero. -/
theorem ne_append_zero (row before : List Char) : (row.reverse.dropWhile (· == '0')).reverse ≠ before ++ ['0'] := by
  intro ends
  have first := List.head?_dropWhile_not (· == '0') row.reverse
  rw [List.reverse_eq_iff.mp ends, List.reverse_append] at first
  simp at first

/-- The shortest digits without the zeros at their end. -/
theorem digits_significant (positive : 0 < x.shortest.toRat) :
    Digits x.shortest.toRat x.significant.1 x.significant.2 := by
  have some : 0 < x.shortest.digits := by
    refine Nat.pos_of_ne_zero fun nothing => positive.ne' ?_
    rw [ScaledDigits.toRat, nothing, Nat.cast_zero, zero_mul]
  unfold significant
  dsimp only
  generalize x.shortest = form at *
  have value := Decimal.appendRow_toDigits form.digits
  have first : 10 ^ ((Nat.toDigits 10 form.digits).length - 1) ≤ form.digits := pow_digitCount_le some
  have length : 0 < (Nat.toDigits 10 form.digits).length := Nat.length_toDigits_pos
  have plain := Decimal.plain_toDigits form.digits
  have last := ne_append_zero (Nat.toDigits 10 form.digits)
  obtain ⟨k, parts⟩ := exists_zeros (Nat.toDigits 10 form.digits)
  generalize ((Nat.toDigits 10 form.digits).reverse.dropWhile (· == '0')).reverse = digits at *
  generalize Nat.toDigits 10 form.digits = row at *
  subst parts
  rw [Decimal.appendRow_append, appendRow_zeros] at value
  have plain' : Plain digits := fun c member => plain c (List.mem_append_left _ member)
  have something : digits ≠ [] := by
    rintro rfl
    simp [appendRow] at value
    omega
  rw [List.length_append, List.length_replicate] at first length ⊢
  refine ⟨plain', something, ?_, ?_, appendRow_mod_ten plain' something last⟩
  · rw [ScaledDigits.toRat, ← value,
      show form.exponent + (digits.length + k : ℕ) - 1 - (digits.length - 1) = form.exponent + k by push_cast; ring,
      zpow_add₀ (by norm_num), zpow_natCast]
    push_cast
    ring
  · have first' : (10 : ℚ) ^ (digits.length + k - 1) ≤ form.digits := by exact_mod_cast first
    rw [ScaledDigits.toRat,
      show form.exponent + (digits.length + k : ℕ) - 1 = form.exponent + ((digits.length + k - 1 : ℕ) : ℤ) by omega,
      zpow_add₀ (by norm_num), zpow_natCast, mul_comm]
    gcongr

/-! ### Layout -/

/-- Digits around the point of a number are its digits, with zeros at the one end or at the other. -/
theorem aroundPoint_spec (plain : Plain digits) (something : digits ≠ []) (exponent : ℤ) :
    Plain (aroundPoint digits exponent).1 ∧ (aroundPoint digits exponent).1 ≠ [] ∧
      Plain (aroundPoint digits exponent).2 ∧
      (aroundPoint digits exponent).2.length = (digits.length - 1 - exponent).toNat ∧
      appendRow 0 ((aroundPoint digits exponent).1 ++ (aroundPoint digits exponent).2) =
        appendRow 0 digits * 10 ^ (exponent - (digits.length - 1)).toNat := by
  have some : 0 < digits.length := List.length_pos_iff.mpr something
  unfold aroundPoint
  split
  · rename_i negative
    have zero : Plain ['0'] := plain_zeros 1
    refine ⟨zero, List.cons_ne_nil _ _, ?_, ?_, ?_⟩
    · intro c member
      rcases List.mem_append.mp member with inZeros | inDigits
      · exact plain_zeros _ c inZeros
      · exact plain c inDigits
    · rw [List.length_append, List.length_replicate]
      omega
    · have none : (exponent - (digits.length - 1)).toNat = 0 := by omega
      have zeros : appendRow 0 (['0'] ++ List.replicate ((-exponent).toNat - 1) '0') = 0 :=
        (appendRow_zeros 0 (_ + 1)).trans (Nat.zero_mul _)
      rw [none, pow_zero, Nat.mul_one, ← List.append_assoc, Decimal.appendRow_append, zeros]
  · rename_i notNegative
    have notEmpty : digits.take (exponent.toNat + 1) ≠ [] := by simpa using something
    refine ⟨?_, fun empty => notEmpty (List.append_eq_nil_iff.mp empty).1, ?_, ?_, ?_⟩
    · intro c member
      rcases List.mem_append.mp member with inDigits | inZeros
      · exact plain c (List.mem_of_mem_take inDigits)
      · exact plain_zeros _ c inZeros
    · exact fun c member => plain c (List.mem_of_mem_drop member)
    · rw [List.length_drop]
      omega
    · dsimp only
      rcases Nat.le_total digits.length (exponent.toNat + 1) with short | long
      · have zeros : exponent.toNat + 1 - digits.length = (exponent - (digits.length - 1)).toNat := by omega
        rw [List.take_of_length_le short, List.drop_of_length_le short, List.append_nil, Decimal.appendRow_append,
          appendRow_zeros, zeros]
      · have none : (exponent - (digits.length - 1)).toNat = 0 := by omega
        rw [Nat.sub_eq_zero_of_le long, List.replicate_zero, List.append_nil, List.take_append_drop, none, pow_zero,
          Nat.mul_one]

/-! ### Numerals of short numbers -/

/-- A short number that a decimal has room for. -/
structure Handy (number : ℚ) (s : ℕ) (place : ℤ) : Prop extends Short number s place where
  least : -22 ≤ place
  inRange : s * 10 ^ place.toNat < Decimal.mantissaBound

/-- Digits that end before the point are a number of as many digits as stand there. -/
theorem Digits.mul_pow_lt (shown : Digits number digits leading) {k : ℕ}
    (place : leading - (digits.length - 1) = k) : appendRow 0 digits * 10 ^ k < 10 ^ (leading + 1).toNat := by
  have some : 0 < digits.length := List.length_pos_iff.mpr shown.something
  calc appendRow 0 digits * 10 ^ k < 10 ^ digits.length * 10 ^ k := by
        gcongr
        exact shown.plain.digitCount_eq ▸ Decimal.appendRow_lt digits
    _ = 10 ^ (leading + 1).toNat := by
        rw [← pow_add]
        congr 1
        omega

section Handy

variable {s : ℕ} {place : ℤ} (handy : Handy number s place) (shown : Digits number digits leading)
include handy

theorem Handy.lt_mantissaBound : number < Decimal.mantissaBound := by
  have inRange : (s : ℚ) * 10 ^ place.toNat < Decimal.mantissaBound := by exact_mod_cast handy.inRange
  have power : (10 : ℚ) ^ place ≤ 10 ^ place.toNat := by
    rw [← zpow_natCast]
    exact zpow_le_zpow_right₀ (by norm_num) (by omega)
  rw [handy.number_eq]
  exact lt_of_le_of_lt (by gcongr) inRange

include shown

/-- The last of the significant digits is in no lower place than the number's own last digit. -/
theorem Handy.place_le : place ≤ leading - (digits.length - 1) ∧ appendRow 0 digits ≤ s := by
  have same := shown.number_eq.symm.trans handy.number_eq
  have last := shown.last
  generalize leading - (digits.length - 1) = l at *
  generalize appendRow 0 digits = n at *
  have within : place ≤ l := by
    by_contra lower
    obtain ⟨k, rfl⟩ := Int.exists_add_of_le (not_le.mp lower).le
    have unit : (0 : ℚ) < 10 ^ l := by positivity
    rw [zpow_add₀ (by norm_num), zpow_natCast, mul_comm ((10 : ℚ) ^ l), ← mul_assoc] at same
    have multiple : n = s * 10 ^ k := by exact_mod_cast mul_right_cancel₀ unit.ne' same
    obtain ⟨j, rfl⟩ := Nat.exists_eq_add_of_lt (show 0 < k by omega)
    exact last (by rw [multiple, pow_succ, ← Nat.mul_assoc, Nat.mul_mod_left])
  obtain ⟨k, rfl⟩ := Int.exists_add_of_le within
  have unit : (0 : ℚ) < 10 ^ place := by positivity
  rw [zpow_add₀ (by norm_num), zpow_natCast, mul_comm ((10 : ℚ) ^ place), ← mul_assoc] at same
  have multiple : n * 10 ^ k = s := by exact_mod_cast mul_right_cancel₀ unit.ne' same
  exact ⟨within, multiple ▸ Nat.le_mul_of_pos_right n (by positivity)⟩

/-- There are fifteen of them at most. -/
theorem Handy.length_le : digits.length ≤ 15 := by
  have some : 0 < digits.length := List.length_pos_iff.mpr shown.something
  have few : appendRow 0 digits < 10 ^ 15 := (handy.place_le shown).2.trans_lt handy.few
  have first : (10 : ℚ) ^ leading ≤ appendRow 0 digits * 10 ^ (leading - (digits.length - 1)) :=
    shown.number_eq ▸ shown.first
  have places : leading = ((digits.length - 1 : ℕ) : ℤ) + (leading - (digits.length - 1)) := by omega
  generalize leading - (digits.length - 1) = l at *
  rw [places, zpow_add₀ (by norm_num), zpow_natCast] at first
  have first' : (10 : ℚ) ^ (digits.length - 1) ≤ appendRow 0 digits :=
    le_of_mul_le_mul_right first (by positivity)
  have first'' : 10 ^ (digits.length - 1) ≤ appendRow 0 digits := by exact_mod_cast first'
  have length := (Nat.pow_lt_pow_iff_right (by decide : 1 < 10)).mp (first''.trans_lt few)
  omega

/-- The first of them is not too far from the point. -/
theorem Handy.leading_le : leading ≤ 28 := by
  have bound : (Decimal.mantissaBound : ℚ) < 10 ^ (29 : ℤ) := by norm_num [Decimal.mantissaBound]
  have less : (10 : ℚ) ^ leading < 10 ^ (29 : ℤ) := (shown.first.trans_lt handy.lt_mantissaBound).trans bound
  have := (zpow_lt_zpow_iff_right₀ (by norm_num : (1 : ℚ) < 10)).mp less
  omega

/-- There is room for them where they stand. -/
theorem Handy.digits_lt :
    appendRow 0 digits * 10 ^ (leading - (digits.length - 1)).toNat < Decimal.mantissaBound := by
  rcases lt_or_ge (leading - (digits.length - 1)) 0 with behind | before
  · rw [Int.toNat_of_nonpos behind.le, pow_zero, Nat.mul_one]
    have few := (handy.place_le shown).2.trans_lt handy.few
    exact Nat.lt_trans few (by decide)
  · have less := handy.lt_mantissaBound
    rw [shown.number_eq] at less
    obtain ⟨k, eq⟩ := Int.eq_ofNat_of_zero_le before
    rw [eq, zpow_natCast] at less
    rw [eq, Int.toNat_natCast]
    exact_mod_cast less

/-- Around the point, with a zero behind it if there is nothing else, they spell the number. -/
theorem Handy.spells_around (negative : Bool) (least : -5 ≤ leading) (greatest : leading ≤ 15) :
    Spells (String.ofList (Decimal.minusText negative ++ ((aroundPoint digits leading).1 ++ '.' ::
      if (aroundPoint digits leading).2 = [] then ['0'] else (aroundPoint digits leading).2)))
      (Decimal.signed negative number) := by
  obtain ⟨plain, something, plain', length, value⟩ := aroundPoint_spec shown.plain shown.something leading
  have within := handy.place_le shown
  have least := handy.least
  have number_eq := shown.number_eq
  generalize aroundPoint digits leading = parts at *
  split
  · rename_i none
    -- All digits stand before the point, and there is room for the zero behind them.
    rw [none, List.append_nil] at value
    rw [none, List.length_nil] at length
    obtain ⟨k, place⟩ := Int.eq_ofNat_of_zero_le (show 0 ≤ leading - (digits.length - 1) by omega)
    have digit : appendRow 0 (parts.1 ++ ['0']) = appendRow 0 parts.1 * 10 := by
      rw [Decimal.appendRow_append]
      exact appendRow_zeros _ 1
    have few : appendRow 0 parts.1 < 10 ^ 16 := by
      rw [value, place, Int.toNat_natCast]
      exact (shown.mul_pow_lt place).trans_le (Nat.pow_le_pow_right (by decide) (by omega))
    have spells := Spells.of_decimals negative plain something (plain_zeros 1) (by decide)
      (show appendRow 0 (parts.1 ++ ['0']) < _ by
        rw [digit]
        exact Nat.lt_trans (Nat.mul_lt_mul_of_pos_right few (by decide)) (by decide))
    have same : (appendRow 0 (parts.1 ++ ['0']) : ℚ) * 10 ^ (-((List.replicate 1 '0').length : ℤ)) = number := by
      rw [digit, value, number_eq, place, Int.toNat_natCast, zpow_natCast, List.length_replicate]
      push_cast
      ring
    exact same ▸ spells
  · rename_i behind
    have some : 0 < parts.2.length := List.length_pos_iff.mpr behind
    have place : -(parts.2.length : ℤ) = leading - (digits.length - 1) := by omega
    rw [Int.toNat_of_nonpos (by omega), pow_zero, Nat.mul_one] at value
    have spells := Spells.of_decimals negative plain something plain' (by unfold Decimal.maxScale; omega)
      (value ▸ Nat.lt_trans (within.2.trans_lt handy.few) (by decide))
    rw [value, place, ← number_eq] at spells
    exact spells

/-- With one of them before the point and an exponent, they spell the number as well. -/
theorem Handy.spells_scientific (negative : Bool) :
    Spells (String.ofList (Decimal.minusText negative ++ ((aroundPoint digits 0).1 ++
        (if (aroundPoint digits 0).2 = [] then [] else '.' :: (aroundPoint digits 0).2) ++
        'e' :: (if leading < 0 then '-' else '+') :: Nat.toDigits 10 leading.natAbs)))
      (Decimal.signed negative number) := by
  obtain ⟨plain, something, plain', length, value⟩ := aroundPoint_spec shown.plain shown.something 0
  have within := (handy.place_le shown).1
  have least := handy.least
  have greatest := handy.leading_le shown
  have few := handy.length_le shown
  have fits := handy.digits_lt shown
  have number_eq := shown.number_eq
  have some : 0 < digits.length := List.length_pos_iff.mpr shown.something
  generalize aroundPoint digits 0 = parts at *
  have place : leading - (parts.2.length : ℤ) = leading - (digits.length - 1) := by omega
  rw [Int.toNat_of_nonpos (by omega), pow_zero, Nat.mul_one] at value
  have spells := Spells.of_exponent negative plain something plain' leading
    (by unfold Decimal.maxScale; omega) (by unfold Decimal.maxScale; omega) (by unfold Decimal.maxScale; omega)
    (by rwa [value, place])
  rw [value, place, ← number_eq] at spells
  exact spells

end Handy

/-- A magnitude that is nothing but a short number that a decimal has room for is written as that number. -/
theorem Handy.spells_toJsonText {s : ℕ} {place : ℤ} (handy : Handy number s place) (same : x.shortest.toRat = number)
    (notZero : x.isZero = false) (negative : Bool) :
    Spells ((if negative then "-" else "") ++ x.toJsonText) (Decimal.signed negative number) := by
  have positive : 0 < number := (by positivity : (0 : ℚ) < 10 ^ place).trans_le handy.unit_le
  have shown := same ▸ digits_significant (x := x) (same ▸ positive)
  have sign (cs : List Char) : (if negative then "-" else "") ++ String.ofList cs =
      String.ofList (Decimal.minusText negative ++ cs) := by
    cases negative <;> simp [Decimal.minusText]
  unfold toJsonText
  rw [notZero]
  simp only [Bool.false_eq_true, if_false]
  by_cases around : -5 ≤ x.significant.2 ∧ x.significant.2 ≤ 15
  · rw [if_pos around, sign]
    exact handy.spells_around shown negative around.1 around.2
  · rw [if_neg around, sign]
    exact handy.spells_scientific shown negative

end Double

/-! ### Literals read and written again -/

namespace Json

variable {literal : NumberLiteral} {numeral : Numeral} {row : List Char} {n m : ℕ}

/-- A whole number is written as that number. -/
theorem NumberValue.spells_integer {n : ℤ} (small : n.natAbs < Decimal.mantissaBound) :
    Spells (NumberValue.integer n).toText n := by
  have fits : appendRow 0 (Nat.toDigits 10 n.natAbs) < Decimal.mantissaBound := by
    rwa [Decimal.appendRow_toDigits]
  have spells (negative : Bool) :=
    Spells.of_whole negative (Decimal.plain_toDigits n.natAbs) Nat.toDigits_ne_nil fits
  rw [Decimal.appendRow_toDigits] at spells
  cases n with
  | ofNat n => exact spells false
  | negSucc n =>
      have value : ((Int.negSucc n : ℤ) : ℚ) = Decimal.signed true (Int.negSucc n).natAbs := by
        rw [Int.cast_negSucc, Int.natAbs_negSucc]
        rfl
      rw [value]
      have text : (NumberValue.integer (Int.negSucc n)).toText =
          String.ofList (Decimal.minusText true ++ Nat.toDigits 10 (Int.negSucc n).natAbs) := by
        rw [String.ofList_append]
        rfl
      rw [text]
      exact spells true

/-- Nothing is written as nothing, whatever its sign. -/
theorem NumberValue.spells_zero {x : Double} (zero : x.isZero = true) (negative : Bool) :
    Spells (NumberValue.double negative x).toText 0 := by
  have spells := Spells.of_decimals negative (Double.plain_zeros 1) (List.cons_ne_nil _ _) (Double.plain_zeros 1)
    (by decide) (by decide)
  have nothing : appendRow 0 (List.replicate 1 '0' ++ List.replicate 1 '0') = 0 := rfl
  rw [nothing, Nat.cast_zero, zero_mul] at spells
  have text : (NumberValue.double negative x).toText =
      String.ofList (Decimal.minusText negative ++ (List.replicate 1 '0' ++ '.' :: List.replicate 1 '0')) := by
    rw [NumberValue.toText, Double.toJsonText, if_pos zero]
    cases negative <;> rfl
  rw [text]
  cases negative <;> simpa [Decimal.signed] using spells

namespace NumberLiteral

/-- All digits were gathered if none of them is left over. -/
theorem of_gather (plain : Plain row) (all : gather row n = (m, [])) (small : n < significandBound) :
    appendRow n row = m ∧ m < significandBound := by
  induction row generalizing n with
  | nil =>
      cases all
      exact ⟨rfl, small⟩
  | cons c row inductionHypothesis =>
      have step : appendRow n (c :: row) = appendRow (n * 10 + digitValue c) row :=
        Decimal.appendRow_of_digit (Decimal.digit?_eq_some (plain c List.mem_cons_self)) n
      rw [gather] at all
      split at all
      · rename_i room
        rw [step]
        exact inductionHypothesis plain.tail all room
      · cases all

/-- A value that is a whole number is all that is written. -/
theorem value?_eq_integer {k : ℤ} (read : literal.value? = some (.integer k)) :
    ∃ m, gather literal.whole 0 = (m, []) ∧ literal.fraction = [] ∧ literal.exponent = none ∧
      k = if literal.negative then -(m : ℤ) else m := by
  have noMagnitude : literal.magnitude?.map (NumberValue.double literal.negative) ≠ some (.integer k) := by
    cases literal.magnitude? <;> nofun
  unfold value? at read
  generalize gathered : gather literal.whole 0 = parts at read
  obtain ⟨m, surplus⟩ := parts
  cases surplus with
  | cons _ _ => exact absurd read noMagnitude
  | nil =>
      by_cases more : literal.fraction ≠ [] ∨ literal.exponent.isSome
      · simp only [if_pos more] at read
        exact absurd read noMagnitude
      · simp only [if_neg more] at read
        simp only [not_or, ne_eq, not_not, Bool.not_eq_true, Option.isSome_eq_false_iff,
          Option.isNone_iff_eq_none] at more
        refine ⟨m, rfl, more.1, more.2, ?_⟩
        cases negative : literal.negative with
        | false =>
            rw [negative] at read
            cases read
            rfl
        | true =>
            rw [negative] at read noMagnitude
            by_cases outside : m = 0 ∨ 2 ^ 63 < m
            · simp only [Bool.not_true, Bool.false_eq_true, if_false, if_pos outside] at read
              exact absurd read noMagnitude
            · simp only [Bool.not_true, Bool.false_eq_true, if_false, if_neg outside] at read
              cases read
              rfl

/-- A value is a whole number, or the magnitude with the sign that is written. -/
theorem value?_cases (literal : NumberLiteral) : (∃ k, literal.value? = some (.integer k)) ∨
    literal.value? = literal.magnitude?.map (.double literal.negative) := by
  unfold value?
  dsimp only
  split
  · exact .inl ⟨_, rfl⟩
  · exact .inr rfl

/-- A decimal has room for a whole number that is read, and it is the number that is written. -/
theorem Spells.of_integer (spells : literal.Spells numeral) {k : ℤ} (read : literal.value? = some (.integer k)) :
    numeral.HasRoom ∧ numeral.value = k ∧ Decimal.Spells (NumberValue.integer k).toText k := by
  obtain ⟨m, gathered, noFraction, noExponent, k_eq⟩ := value?_eq_integer read
  obtain ⟨digits, small⟩ := of_gather (spells.whole ▸ spells.plain.whole) gathered (by decide)
  have significand : literal.significand = m := by rw [NumberLiteral.significand, noFraction, List.append_nil, digits]
  have lastPlace : literal.lastPlace = 0 := by
    simp [NumberLiteral.lastPlace, NumberLiteral.shift, noFraction, noExponent]
  have small' : m < Decimal.mantissaBound := Nat.lt_trans small (by decide)
  refine ⟨⟨?_, ?_, ?_, ?_⟩, ?_, NumberValue.spells_integer ?_⟩
  · rw [spells.decimals, noFraction]
    exact Nat.zero_le _
  · intro exponent written
    have exponent_eq := spells.exponent
    rw [written, noExponent] at exponent_eq
    cases exponent_eq
  · rw [spells.lastPlace_eq, lastPlace]
    decide
  · rwa [spells.lastPlace_eq, spells.significand_eq, lastPlace, significand, Int.toNat_zero, pow_zero, Nat.mul_one]
  · rw [Numeral.value_eq spells.plain, spells.lastPlace_eq, spells.significand_eq, lastPlace, significand, zpow_zero,
      mul_one, spells.sign, k_eq]
    cases literal.negative <;> simp [Decimal.signed]
  · rw [k_eq]
    split <;> simpa using small'

/-- A short literal has a value, and that is written again as the number that is written in the literal. -/
theorem Spells.of_isShort (spells : literal.Spells numeral) (short : literal.IsShort) :
    ∃ value, literal.value? = some value ∧ Decimal.Spells value.toText numeral.value := by
  rcases literal.value?_cases with ⟨k, read⟩ | read
  · obtain ⟨_, value, writtenAgain⟩ := spells.of_integer read
    exact ⟨_, read, value ▸ writtenAgain⟩
  · have magnitude := magnitude?_eq spells (Nat.lt_trans short.digits (by decide))
      fun exponent written => Nat.lt_of_le_of_lt (short.exponent exponent written) (by decide)
    have value := Numeral.value_eq spells.plain
    have sign : decide (numeral.sign = .minus) = literal.negative := by
      rw [spells.sign]
      cases literal.negative <;> rfl
    rw [sign, spells.significand_eq, spells.lastPlace_eq] at value
    rw [magnitude] at read
    rcases Nat.eq_zero_or_pos literal.significand with nothing | positive
    · obtain ⟨x, scaled, zero⟩ : ∃ x, scale 0 literal.lastPlace = some x ∧ x.isZero = true := ⟨_, rfl, rfl⟩
      rw [nothing, scaled, Option.map_some] at read
      refine ⟨_, read, ?_⟩
      have value' : numeral.value = 0 := by
        rw [value, nothing, Nat.cast_zero, zero_mul]
        cases literal.negative <;> simp [Decimal.signed]
      rw [value']
      exact NumberValue.spells_zero zero _
    · obtain ⟨x, scaled, rounded⟩ := exists_scale positive short.digits short.least short.greatest
      rw [scaled, Option.map_some] at read
      refine ⟨_, read, value ▸ ?_⟩
      let handy : Double.Handy (literal.significand * (10 : ℚ) ^ literal.lastPlace) literal.significand
          literal.lastPlace := ⟨⟨positive, short.digits, rfl⟩, short.least, short.inRange⟩
      have full : 2 ^ 52 ≤ x.mantissa := rounded.full <|
        calc (2 : ℚ) ^ (-150 : ℤ) ≤ 10 ^ (-22 : ℤ) := by norm_num
          _ ≤ 10 ^ literal.lastPlace := zpow_le_zpow_right₀ (by norm_num) short.least
          _ ≤ _ := handy.unit_le
      have notZero : x.isZero = false := by
        simpa [Double.isZero] using (Nat.lt_of_lt_of_le (Nat.two_pow_pos 52) full).ne'
      exact handy.spells_toJsonText (handy.toRat_shortest rounded.covers full) notZero literal.negative

end NumberLiteral

end Json

end Passbook

import Passbook.Proofs.Decimal.Writing
import Passbook.Proofs.Text.Blank
import Passbook.Proofs.Time.Calendar
import Passbook.Time.Text
/-!
# Points in time that are written

What is written of a point in time is read as the same point, to the nanosecond, in all years that are written with
four digits.
-/

namespace Passbook.Timestamp

-- Powers are those of natural numbers and integers, whatever else is in scope.
attribute [local instance (2000)] instPowNat

open Decimal (Plain appendRow paddedDigits plain_paddedDigits length_paddedDigits appendRow_paddedDigits)

/-! ### Parts of a text -/

section Parts

variable {c : Char} {digits rest : List Char} {most n width : ℕ}

theorem toList_padded (width n : ℕ) : (padded width n).toList = paddedDigits width n := by
  simp [padded, paddedDigits, Nat.toString_eq_repr, Nat.repr]

theorem digitsValue_eq (plain : Plain digits) : digitsValue digits = appendRow 0 digits := by
  unfold digitsValue
  generalize 0 = start
  induction digits generalizing start with
  | nil => rfl
  | cons c digits inductionHypothesis =>
      rw [List.foldl_cons, inductionHypothesis plain.tail,
        Decimal.appendRow_of_digit (Decimal.digit?_eq_some (plain c List.mem_cons_self))]

theorem digitsValue_paddedDigits : digitsValue (paddedDigits width n) = n := by
  rw [digitsValue_eq plain_paddedDigits, appendRow_paddedDigits]

theorem isBlank_of_isDigit (digit : c.isDigit = true) : Text.isBlank c = false := by
  simp only [Char.isDigit, Bool.and_eq_true, decide_eq_true_eq] at digit
  have least : 48 ≤ c.toNat := digit.1
  have greatest : c.toNat ≤ 57 := digit.2
  exact Text.isBlank_of_visible ⟨by omega, by omega⟩

theorem skipBlanks_cons (visible : Text.isBlank c = false) : skipBlanks (c :: rest) = c :: rest :=
  List.dropWhile_cons_of_neg (by simp [visible])

/-- Digits are taken off as far as they go, or as many as may be taken. -/
theorem readDigits_append (plain : Plain digits) (something : digits ≠ []) (short : digits.length ≤ most)
    (ends : digits.length = most ∨ ∀ c ∈ rest.head?, c.isDigit = false) :
    readDigits most (digits ++ rest) = some (digits, rest) := by
  have taken : ((digits ++ rest).take most).takeWhile Char.isDigit = digits := by
    rw [List.take_append, List.take_of_length_le short, List.takeWhile_append_of_pos plain]
    rcases ends with rfl | ends
    · simp
    · cases rest with
      | nil => simp
      | cons c rest => cases most - digits.length <;> simp [ends c rfl]
  simp [readDigits, taken, something]

theorem paddedDigits_eq_cons (something : 0 < width) (fits : n < 10 ^ width) :
    ∃ c more, paddedDigits width n = c :: more ∧ c.isDigit = true := by
  have length := length_paddedDigits something fits
  obtain ⟨c, more, eq⟩ := List.exists_cons_of_length_pos (length ▸ something)
  exact ⟨c, more, eq, plain_paddedDigits c (eq ▸ List.mem_cons_self)⟩

theorem paddedDigits_ne_nil (something : 0 < width) (fits : n < 10 ^ width) : paddedDigits width n ≠ [] := by
  obtain ⟨c, more, eq, -⟩ := paddedDigits_eq_cons something fits
  exact eq ▸ List.cons_ne_nil c more

/-- A number with as many digits as are asked for. -/
theorem readDigits_paddedDigits (something : 0 < width) (fits : n < 10 ^ width) :
    readDigits width (paddedDigits width n ++ rest) = some (paddedDigits width n, rest) := by
  have length := length_paddedDigits something fits
  exact readDigits_append plain_paddedDigits (paddedDigits_ne_nil something fits) length.le (.inl length)

theorem skipBlanks_paddedDigits (something : 0 < width) (fits : n < 10 ^ width) :
    skipBlanks (paddedDigits width n ++ rest) = paddedDigits width n ++ rest := by
  obtain ⟨c, more, eq, digit⟩ := paddedDigits_eq_cons something fits
  rw [eq, List.cons_append, skipBlanks_cons (isBlank_of_isDigit digit)]

theorem readField_paddedDigits (least greatest : ℕ) {n : ℕ} (low : least ≤ n) (high : n ≤ greatest)
    (fits : greatest < 100) :
    ∀ rest, readField least greatest (paddedDigits 2 n ++ rest) = some (n, rest) := by
  intro rest
  have small : n < 10 ^ 2 := by omega
  rw [readField, skipBlanks_paddedDigits (by decide) small, readDigits_paddedDigits (by decide) small]
  simp [digitsValue_paddedDigits, low, high]

theorem readYear_paddedDigits (fits : n < 10 ^ 4) (rest : List Char) :
    readYear (paddedDigits 4 n ++ rest) = some ((n : ℤ), rest) := by
  obtain ⟨c, more, eq, digit⟩ := paddedDigits_eq_cons (by decide) fits
  have read : readDigits 4 (paddedDigits 4 n ++ rest) = some (paddedDigits 4 n, rest) :=
    readDigits_paddedDigits (by decide) fits
  have value : digitsValue (paddedDigits 4 n) = n := digitsValue_paddedDigits
  rw [readYear, skipBlanks_paddedDigits (by decide) fits]
  rw [eq, List.cons_append] at *
  split
  · rename_i same
    obtain ⟨rfl, -⟩ := List.cons.inj same
    cases digit
  · rename_i same
    obtain ⟨rfl, -⟩ := List.cons.inj same
    cases digit
  · simp [read, value]

theorem readMark_cons (visible : Text.isBlank c = false) : readMark c (c :: rest) = some rest := by
  rw [readMark, skipBlanks_cons visible]
  exact if_pos rfl

/-- Decimals of a second, as many as are written. -/
theorem readFraction_paddedDigits (width n : ℕ) (something : 0 < width) (short : width ≤ 9) (fits : n < 10 ^ width) :
    readFraction ('.' :: (paddedDigits width n ++ ['Z'])) = some (n * 10 ^ (9 - width), ['Z']) := by
  have length := length_paddedDigits something fits
  have read : readDigits 9 (paddedDigits width n ++ ['Z']) = some (paddedDigits width n, ['Z']) :=
    readDigits_append plain_paddedDigits (paddedDigits_ne_nil something fits) (by omega) (.inr (by rintro c ⟨⟩; rfl))
  rw [readFraction, read]
  simp [digitsValue_paddedDigits, length]

/-- Nanoseconds are read from as many groups of decimals as they need. -/
theorem readFraction_fractionText {nanos : ℕ} (small : nanos < nanosPerSecond) :
    readFraction ((fractionText nanos).toList ++ ['Z']) = some (nanos, ['Z']) := by
  rw [nanosPerSecond] at small
  unfold fractionText
  split
  · subst nanos
    rfl
  · split
    · rename_i millis
      have read := readFraction_paddedDigits 3 (nanos / 1000000) (by decide) (by decide) (by omega)
      have back : nanos / 1000000 * 10 ^ (9 - 3) = nanos := by omega
      rw [back] at read
      simpa [toList_padded] using read
    · split
      · rename_i micros
        have read := readFraction_paddedDigits 6 (nanos / 1000) (by decide) (by decide) (by omega)
        have back : nanos / 1000 * 10 ^ (9 - 6) = nanos := by omega
        rw [back] at read
        simpa [toList_padded] using read
      · have read := readFraction_paddedDigits 9 nanos (by decide) (by decide) (by omega)
        simpa [toList_padded] using read

end Parts

/-! ### The whole text -/

/-- The characters of a point in time in a year of four digits. -/
theorem toList_toText {t : Timestamp} (first : 0 ≤ t.date.year) (last : t.date.year ≤ 9999)
    (small : t.nanos < nanosPerSecond) : t.toText.toList =
      paddedDigits 4 t.date.year.toNat ++ '-' :: (paddedDigits 2 t.date.month ++ '-' :: (paddedDigits 2 t.date.day ++
        'T' :: (paddedDigits 2 (t.secondOfDay / 3600) ++ ':' :: (paddedDigits 2 (t.secondOfDay / 60 % 60) ++
          ':' :: (paddedDigits 2 (t.secondOfDay % 60) ++ ((fractionText t.nanos).toList ++ ['Z'])))))) := by
  simp [toText, localText, yearText, first, last, toList_padded, Nat.div_eq_of_lt small, Nat.mod_eq_of_lt small]

/-- What is written of a point in time is read as this point. -/
theorem parse?_toText {t : Timestamp} (first : 0 ≤ t.date.year) (last : t.date.year ≤ 9999)
    (small : t.nanos < nanosPerSecond) : parse? t.toText = some t := by
  have valid : t.date.isValid = true := Date.isValid_ofDays (t.seconds / secondsPerDay)
  have known := valid
  simp only [Date.isValid, Bool.and_eq_true, decide_eq_true_eq] at known
  have days := Date.toDays_ofDays (t.seconds / secondsPerDay)
  have long := Date.daysInMonth_le t.date.year t.date.month
  have inDay : t.secondOfDay < 86400 := by
    unfold secondOfDay secondsPerDay
    omega
  have year : t.date.year.toNat < 10 ^ 4 := by omega
  have month := readField_paddedDigits 1 12 known.1.1.1 known.1.1.2 (by decide)
  have day := readField_paddedDigits 1 31 known.1.2 (Nat.le_trans known.2 long) (by decide)
  have hour := readField_paddedDigits 0 23 (Nat.zero_le (t.secondOfDay / 3600)) (by omega) (by decide)
  have minute := readField_paddedDigits 0 59 (Nat.zero_le (t.secondOfDay / 60 % 60)) (by omega) (by decide)
  have second := readField_paddedDigits 0 60 (Nat.zero_le (t.secondOfDay % 60)) (by omega) (by decide)
  have nanos := readFraction_fractionText small
  rw [parse?, toList_toText first last small]
  refine Option.bind_eq_some_iff.mpr ⟨_, readYear_paddedDigits year _, ?_⟩
  refine Option.bind_eq_some_iff.mpr ⟨_, readMark_cons rfl, ?_⟩
  refine Option.bind_eq_some_iff.mpr ⟨_, month _, ?_⟩
  refine Option.bind_eq_some_iff.mpr ⟨_, readMark_cons rfl, ?_⟩
  refine Option.bind_eq_some_iff.mpr ⟨_, day _, ?_⟩
  refine Option.bind_eq_some_iff.mpr ⟨_, rfl, ?_⟩
  refine Option.bind_eq_some_iff.mpr ⟨_, hour _, ?_⟩
  refine Option.bind_eq_some_iff.mpr ⟨_, readMark_cons rfl, ?_⟩
  refine Option.bind_eq_some_iff.mpr ⟨_, minute _, ?_⟩
  refine Option.bind_eq_some_iff.mpr ⟨_, readMark_cons rfl, ?_⟩
  refine Option.bind_eq_some_iff.mpr ⟨_, second _, ?_⟩
  refine Option.bind_eq_some_iff.mpr ⟨_, nanos, ?_⟩
  refine Option.bind_eq_some_iff.mpr ⟨(0, []), rfl, ?_⟩
  have range : yearInRange t.date.year = true := by
    have low : yearBounds.1 ≤ t.date.year := Int.le_trans (by decide) first
    have high : t.date.year ≤ yearBounds.2 := Int.le_trans last (by decide)
    simp [yearInRange, low, high]
  have noLeap : t.secondOfDay % 60 / 60 = 0 := by omega
  have sameYear : (t.date.year.toNat : ℤ) = t.date.year := Int.toNat_of_nonneg first
  have sameSeconds : t.date.toDays * secondsPerDay +
      ((t.secondOfDay / 3600 * 3600 + t.secondOfDay / 60 % 60 * 60 + t.secondOfDay % 60 : ℕ) : ℤ) - 0 = t.seconds := by
    rw [date, days]
    unfold secondOfDay secondsPerDay
    omega
  simp only [sameYear, noLeap, Nat.sub_zero, Nat.zero_mul, Nat.add_zero]
  rw [sameSeconds]
  exact if_pos ⟨rfl, by decide, valid, range, range⟩

end Passbook.Timestamp

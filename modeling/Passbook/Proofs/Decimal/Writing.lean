import Passbook.Proofs.Decimal.Numeral
/-!
# Writing numerals

A decimal is written with all of its digits, so that what is written denotes the number it stands for, and the
reader comes back to the same mantissa and the same scale; only a zero loses its sign.
-/

namespace Passbook.Decimal

-- Powers are those of natural numbers and integers, whatever else is in scope.
attribute [local instance (2000)] instPowNat

/-! ### Rows without separators -/

/-- Only digits stand in the row. -/
def Plain (row : List Char) : Prop := ∀ c ∈ row, c.isDigit = true

section Rows

variable {c : Char} {row rest : List Char}

theorem digit?_eq_some (isDigit : c.isDigit = true) : digit? c = some (c.toNat - '0'.toNat) := if_pos isDigit

theorem Plain.tail (plain : Plain (c :: row)) : Plain row := fun c member => plain c (List.mem_cons_of_mem _ member)

theorem Plain.isRow (plain : Plain row) : ∀ c ∈ row, isRow c = true := fun c member => by
  rw [Decimal.isRow, plain c member, Bool.true_or]

theorem Plain.digitCount_eq (plain : Plain row) : digitCount row = row.length := by
  induction row with
  | nil => rfl
  | cons c row inductionHypothesis =>
      rw [digitCount_of_digit (digit?_eq_some (plain c List.mem_cons_self)), inductionHypothesis plain.tail,
        List.length_cons]

theorem Plain.appendRow_eq_ofDigitChars (plain : Plain row) (n : ℕ) :
    appendRow n row = Nat.ofDigitChars 10 row n := by
  induction row generalizing n with
  | nil => rfl
  | cons c row inductionHypothesis =>
      rw [appendRow_of_digit (digit?_eq_some (plain c List.mem_cons_self)), inductionHypothesis plain.tail,
        Nat.ofDigitChars_cons, Nat.mul_comm n]

/-- A row takes a number no further down. -/
theorem le_appendRow (n : ℕ) (row : List Char) : n ≤ appendRow n row := by
  rw [appendRow_eq]
  exact Nat.le_trans (Nat.le_mul_of_pos_right n (by positivity)) (Nat.le_add_right _ _)

theorem appendRow_append (n : ℕ) (row more : List Char) :
    appendRow n (row ++ more) = appendRow (appendRow n row) more := by
  simp [appendRow]

end Rows

/-! ### Digits that are written -/

theorem plain_toDigits (n : ℕ) : Plain (Nat.toDigits 10 n) := fun _ member =>
  Nat.isDigit_of_mem_toDigits (by decide) (by decide) member

theorem appendRow_toDigits (n : ℕ) : appendRow 0 (Nat.toDigits 10 n) = n := by
  rw [(plain_toDigits n).appendRow_eq_ofDigitChars]
  exact Nat.ofDigitChars_ten_toDigits

section Padded

variable {width n : ℕ}

theorem plain_paddedDigits : Plain (paddedDigits width n) := fun c member => by
  rcases List.mem_append.mp member with zero | digit
  · rw [(List.mem_replicate.mp zero).2]
    rfl
  · exact plain_toDigits n c digit

theorem length_paddedDigits (something : 0 < width) (fits : n < 10 ^ width) :
    (paddedDigits width n).length = width := by
  have short : (Nat.toDigits 10 n).length ≤ width := (Nat.length_toDigits_le_iff (by decide) something).mpr fits
  simp only [paddedDigits, List.length_append, List.length_replicate]
  omega

theorem appendRow_paddedDigits : appendRow 0 (paddedDigits width n) = n := by
  rw [plain_paddedDigits.appendRow_eq_ofDigitChars, paddedDigits, Nat.ofDigitChars_append,
    Nat.ofDigitChars_replicate_zero, Nat.mul_zero]
  exact Nat.ofDigitChars_ten_toDigits

end Padded

/-! ### The numeral of a decimal -/

/-- A decimal as a numeral: as many digits behind the point as its scale says. -/
def numeral (d : Decimal) : Numeral where
  sign := if d.negative then .minus else .none
  whole := Nat.toDigits 10 (d.mantissa / 10 ^ d.scale)
  fraction := if d.scale = 0 then none else some (paddedDigits d.scale (d.mantissa % 10 ^ d.scale))
  exponent := none
  plain := (plain_toDigits _).isRow
  plain' := by
    split
    · nofun
    · exact plain_paddedDigits.isRow

theorem toList_toText (d : Decimal) : d.toText.toList = d.numeral.text := by
  have signText : (if d.negative then ['-'] else []) = d.numeral.sign.text := by
    cases negative : d.negative <;> simp [numeral, negative, Sign.text]
  have fractionText : (if d.scale = 0 then [] else '.' :: paddedDigits d.scale (d.mantissa % 10 ^ d.scale))
      = pointed d.numeral.fraction := by
    by_cases whole : d.scale = 0 <;> simp [numeral, whole, pointed]
  rw [toText, String.toList_ofList, signText, fractionText, List.append_assoc]
  exact (List.append_nil _).symm

/-- The digits behind the point of a decimal. -/
theorem digitCount_fraction (d : Decimal) : digitCount (d.numeral.fraction.getD []) = d.scale := by
  by_cases whole : d.scale = 0
  · simp [numeral, whole, digitCount]
  · simp only [numeral, if_neg whole, Option.getD_some]
    rw [plain_paddedDigits.digitCount_eq,
      length_paddedDigits (Nat.pos_of_ne_zero whole) (Nat.mod_lt _ (by positivity))]

/-- The digits of a decimal make up its mantissa. -/
theorem appendRow_digits (d : Decimal) :
    appendRow 0 (d.numeral.whole ++ d.numeral.fraction.getD []) = d.mantissa := by
  have parts := Nat.div_add_mod d.mantissa (10 ^ d.scale)
  rw [appendRow_append, appendRow_eq, digitCount_fraction]
  simp only [numeral, appendRow_toDigits]
  by_cases whole : d.scale = 0
  · simp [whole, appendRow]
  · rw [if_neg whole, Option.getD_some, appendRow_paddedDigits]
    linarith

/-- What is written denotes the number that the decimal stands for. -/
theorem value_numeral (d : Decimal) : d.numeral.value = d.toRat := by
  have sign : decide (d.numeral.sign = .minus) = d.negative := by
    cases negative : d.negative <;> simp [numeral, negative]
  change d.numeral.base = d.toRat
  rw [Numeral.base, appendRow_digits, digitCount_fraction, sign, toRat]

/-! ### Reading what is written -/

section Reading

variable {d : Decimal} {row rest : List Char} {digitSeen : Bool}

/-- Digits in front of the point are appended to the mantissa. -/
theorem readWhole_plain (plain : Plain row) (fits : appendRow d.mantissa row < mantissaBound) :
    readWhole (row ++ rest) digitSeen d =
      readWhole rest (digitSeen || !row.isEmpty)
        { d with mantissa := appendRow d.mantissa row, mantissa_lt := fits } := by
  induction row generalizing d digitSeen with
  | nil => simp [appendRow]
  | cons c row inductionHypothesis =>
      have isDigit := digit?_eq_some (plain c List.mem_cons_self)
      have step : appendRow d.mantissa (c :: row) = appendRow (d.mantissa * 10 + (c.toNat - '0'.toNat)) row :=
        appendRow_of_digit isDigit d.mantissa
      have room : d.mantissa * 10 + (c.toNat - '0'.toNat) < mantissaBound := by
        rw [step] at fits
        exact Nat.lt_of_le_of_lt (le_appendRow _ row) fits
      have fits' : appendRow (d.mantissa * 10 + (c.toNat - '0'.toNat)) row < mantissaBound := by rwa [← step]
      simp only [List.cons_append, readWhole, isDigit, appendDigit?, dif_pos room]
      rw [inductionHypothesis plain.tail fits']
      simp [step]

/-- Digits behind the point are appended to the mantissa, and counted in the scale. -/
theorem readFraction_plain (plain : Plain row) (fits : appendRow d.mantissa row < mantissaBound)
    (short : d.scale + row.length ≤ maxScale) :
    readFraction row true d =
      finish true ⟨d.negative, appendRow d.mantissa row, d.scale + row.length, fits, short⟩ := by
  induction row generalizing d with
  | nil => rfl
  | cons c row inductionHypothesis =>
      have isDigit := digit?_eq_some (plain c List.mem_cons_self)
      have step : appendRow d.mantissa (c :: row) = appendRow (d.mantissa * 10 + (c.toNat - '0'.toNat)) row :=
        appendRow_of_digit isDigit d.mantissa
      rw [List.length_cons] at short
      have room : d.mantissa * 10 + (c.toNat - '0'.toNat) < mantissaBound ∧ d.scale + 1 ≤ maxScale := by
        rw [step] at fits
        exact ⟨Nat.lt_of_le_of_lt (le_appendRow _ row) fits, by omega⟩
      have fits' : appendRow (d.mantissa * 10 + (c.toNat - '0'.toNat)) row < mantissaBound := by rwa [← step]
      simp only [readFraction, isDigit, appendFractionDigit?, dif_pos room]
      rw [inductionHypothesis plain.tail fits' (by simp only; omega)]
      simp [step, Nat.add_assoc, Nat.add_comm 1]

/-- A text that begins with a digit has no sign. -/
theorem parsePlain_plain (plain : Plain row) (something : row ≠ []) :
    parsePlain (row ++ rest) = readWhole (row ++ rest) false zero := by
  obtain ⟨c, row, rfl⟩ := List.exists_cons_of_ne_nil something
  have isDigit := plain c List.mem_cons_self
  unfold parsePlain
  split
  · rename_i none
    cases none
  · rename_i minus
    cases minus
    cases isDigit
  · rename_i plus
    cases plus
    cases isDigit
  · rfl

/-- Sign, mantissa and scale make up a decimal. -/
theorem eq_of_parts {d d' : Decimal} (negative : d.negative = d'.negative) (mantissa : d.mantissa = d'.mantissa)
    (scale : d.scale = d'.scale) : d = d' := by
  cases d
  cases d'
  simp_all

/-- The digits of a decimal are read behind its sign. -/
theorem readWhole_digits (d : Decimal) :
    readWhole (d.numeral.whole ++ pointed d.numeral.fraction) false { zero with negative := d.negative } =
      .ok d.unsignZero := by
  have plain : Plain d.numeral.whole := plain_toDigits _
  have something : d.numeral.whole ≠ [] := Nat.toDigits_ne_nil
  have seen : (!d.numeral.whole.isEmpty) = true := by simpa using something
  have digits := appendRow_digits d
  rw [appendRow_append] at digits
  have fits : appendRow ({ zero with negative := d.negative } : Decimal).mantissa d.numeral.whole < mantissaBound :=
    Nat.lt_of_le_of_lt (le_appendRow _ (d.numeral.fraction.getD [])) (digits ▸ d.mantissa_lt)
  rw [readWhole_plain plain fits, Bool.false_or, seen]
  by_cases whole : d.scale = 0
  · have noFraction : d.numeral.fraction = none := if_pos whole
    rw [noFraction] at digits ⊢
    exact congrArg (fun d' : Decimal => Except.ok d'.unsignZero) (eq_of_parts rfl digits whole.symm)
  · have hasFraction : d.numeral.fraction = some (paddedDigits d.scale (d.mantissa % 10 ^ d.scale)) :=
      if_neg whole
    have length := length_paddedDigits (Nat.pos_of_ne_zero whole) (Nat.mod_lt d.mantissa (by positivity))
    have noDigit : digit? '.' = none := rfl
    rw [hasFraction] at digits ⊢
    simp only [pointed, readWhole, noDigit, if_true]
    rw [readFraction_plain plain_paddedDigits (lt_of_eq_of_lt digits d.mantissa_lt)
      (by simpa only [zero, length, Nat.zero_add] using d.scale_le)]
    refine congrArg (fun d' : Decimal => Except.ok d'.unsignZero) (eq_of_parts rfl digits ?_)
    simp only [zero, length, Nat.zero_add]

end Reading

/-- The reader comes back to the decimal that is written, but for the sign of a zero. -/
theorem parse_toText (d : Decimal) : parse d.toText = .ok d.unsignZero := by
  have plain : parsePlain d.toText.toList = .ok d.unsignZero := by
    have text : d.toText.toList = d.numeral.sign.text ++ (d.numeral.whole ++ pointed d.numeral.fraction) :=
      (toList_toText d).trans (List.append_nil _)
    have read := readWhole_digits d
    rw [text]
    cases negative : d.negative with
    | true =>
        have sign : d.numeral.sign = .minus := if_pos negative
        rw [negative] at read
        rw [sign]
        exact read
    | false =>
        have sign : d.numeral.sign = .none := if_neg (by simp [negative])
        rw [negative] at read
        rw [sign]
        exact (parsePlain_plain (plain_toDigits _) Nat.toDigits_ne_nil).trans read
  simp only [parse, plain]

end Passbook.Decimal

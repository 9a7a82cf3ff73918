import Passbook.Json.Token
import Passbook.Proofs.Binary.Shortest
import Passbook.Proofs.Decimal.Room
/-!
# Number literals

A JSON number is written as a numeral.  What it is read as, and how that is written again, is compared with the
number that is written: a whole number of 64 bits comes back, and so does a number of fifteen digits.
-/

namespace Passbook.Json

-- Powers are those of natural numbers and integers, whatever else is in scope.
attribute [local instance (2000)] instPowNat

open Decimal (Numeral Plain pointed appendRow)

/-! ### The numeral of a literal -/

/-- A literal has the parts of a numeral. -/
structure NumberLiteral.Spells (literal : NumberLiteral) (numeral : Numeral) : Prop where
  plain : numeral.Plain
  sign : numeral.sign = if literal.negative then .minus else .none
  whole : numeral.whole = literal.whole
  decimals : numeral.decimals = literal.fraction
  exponent : literal.exponent = numeral.exponent.map fun exponent => ⟨exponent.minus, exponent.digits⟩

section Reading

variable {signs rest : List Sign} {cs digits : List Char} {literal : NumberLiteral}

/-- The digits in front are digits, and nothing is lost. -/
theorem spanDigits_spec (signs : List Sign) :
    signs = (spanDigits signs).1.map some ++ (spanDigits signs).2 ∧ Plain (spanDigits signs).1 := by
  fun_induction spanDigits signs with
  | case1 c rest isDigit inductionHypothesis =>
      obtain ⟨parts, plain⟩ := inductionHypothesis
      refine ⟨?_, List.forall_mem_cons.mpr ⟨isDigit, plain⟩⟩
      conv_lhs => rw [parts]
      simp
  | case2 c rest noDigit => exact ⟨rfl, by simp [Plain]⟩
  | case3 signs => exact ⟨rfl, by simp [Plain]⟩

theorem spanDigits_eq (span : spanDigits signs = (digits, rest)) :
    signs = digits.map some ++ rest ∧ Plain digits := by
  have spec := spanDigits_spec signs
  rwa [span] at spec

theorem readWhole_eq_some (read : readWhole signs = some (digits, rest)) :
    signs = digits.map some ++ rest ∧ Plain digits ∧ digits ≠ [] := by
  unfold readWhole at read
  split at read
  · cases read
  · cases read
  · rename_i span
    cases read
    obtain ⟨parts, plain⟩ := spanDigits_eq span
    refine ⟨parts, plain, ?_⟩
    rintro rfl
    simp_all

theorem readFraction_eq_some (read : readFraction signs = some (digits, rest)) :
    ∃ fraction, signs = (pointed fraction).map some ++ rest ∧ fraction.getD [] = digits ∧ Plain digits := by
  unfold readFraction at read
  split at read
  · split at read
    · cases read
    · rename_i span
      cases read
      obtain ⟨parts, plain⟩ := spanDigits_eq span
      exact ⟨some digits, by rw [parts]; rfl, rfl, plain⟩
  · cases read
    exact ⟨none, rfl, rfl, nofun⟩

/-- How an exponent is written with its mark, if there is one. -/
def markedText : Option Decimal.Exponent → List Char
  | none => []
  | some exponent => exponent.mark :: exponent.tail

/-- Whether a minus sign stands behind a mark, and what comes behind the sign, if there is one. -/
def spanSign (signs : List Sign) : Bool × List Sign :=
  match signs with
  | some '-' :: rest => (true, rest)
  | some '+' :: rest => (false, rest)
  | rest => (false, rest)

theorem spanSign_eq (signs : List Sign) :
    ∃ plus : Bool, signs =
      (if (spanSign signs).1 then [some '-'] else []) ++
        ((if plus then [some '+'] else []) ++ (spanSign signs).2) := by
  unfold spanSign
  split
  · exact ⟨false, rfl⟩
  · exact ⟨true, rfl⟩
  · exact ⟨false, rfl⟩

private theorem readExponent_cons (c : Char) (signs : List Sign) : readExponent (some c :: signs) =
    if c = 'e' ∨ c = 'E' then
      match spanDigits (spanSign signs).2 with
      | ([], _) => none
      | (digits, rest) => some (some ⟨(spanSign signs).1, digits⟩, rest)
    else some (none, some c :: signs) := rfl

theorem readExponent_eq_some {exponent : Option Exponent} (read : readExponent signs = some (exponent, rest)) :
    ∃ written : Option Decimal.Exponent, signs = (markedText written).map some ++ rest ∧
      exponent = written.map (fun exponent => ⟨exponent.minus, exponent.digits⟩) ∧
      ∀ exponent, written = some exponent → exponent.digits ≠ [] := by
  match signs with
  | [] | none :: _ =>
      cases read
      exact ⟨none, rfl, rfl, nofun⟩
  | some c :: behind =>
      rw [readExponent_cons] at read
      split at read
      · rename_i mark
        obtain ⟨plus, parts⟩ := spanSign_eq behind
        split at read
        · cases read
        · rename_i digits rest' notEmpty span
          cases read
          obtain ⟨parts', plain⟩ := spanDigits_eq span
          have isMark : Decimal.isExponentMark c = true := by
            rcases mark with rfl | rfl <;> rfl
          refine ⟨some ⟨c, (spanSign behind).1, plus, digits, isMark, plain⟩, ?_, rfl, ?_⟩
          · conv_lhs => rw [parts, parts']
            cases (spanSign behind).1 <;> cases plus <;> simp [markedText, Decimal.Exponent.tail]
          · rintro _ ⟨⟩ rfl
            simp_all
      · cases read
        exact ⟨none, rfl, rfl, nofun⟩

/-- A number has an optional sign, digits, and perhaps a fraction and an exponent. -/
private theorem readNumber_eq (signs : List Sign) :
    ∃ (negative : Bool) (unsigned : List Sign), signs = (if negative then [some '-'] else []) ++ unsigned ∧
      readNumber signs = (do
        let (whole, rest) ← readWhole unsigned
        let (fraction, rest) ← readFraction rest
        let (exponent, rest) ← readExponent rest
        some (⟨negative, whole, fraction, exponent⟩, rest)) := by
  unfold readNumber
  split
  rename_i negative unsigned begins
  split at begins
  · cases begins
    exact ⟨true, _, rfl, rfl⟩
  · cases begins
    exact ⟨false, _, rfl, rfl⟩

theorem exists_numeral (spelled : readNumber (cs.map some) = some (literal, [])) :
    ∃ numeral, cs = numeral.text ∧ literal.Spells numeral := by
  obtain ⟨negative, unsigned, parts, eq⟩ := readNumber_eq (cs.map some)
  simp only [eq, Option.bind_eq_bind, Option.bind_eq_some_iff, Prod.exists] at spelled
  obtain ⟨whole, rest, readWhole, decimals, rest', readFraction, exponent, rest'', readExponent, literal_eq⟩ := spelled
  cases literal_eq
  obtain ⟨rfl, plain, something⟩ := readWhole_eq_some readWhole
  obtain ⟨fraction, rfl, rfl, plain'⟩ := readFraction_eq_some readFraction
  obtain ⟨written, rfl, exponent_eq, notEmpty⟩ := readExponent_eq_some readExponent
  let numeral : Numeral :=
    { sign := if negative then .minus else .none
      whole := whole
      fraction := fraction
      exponent := written
      plain := plain.isRow
      plain' := plain'.isRow }
  refine ⟨numeral, ?_, ⟨plain, something, plain', notEmpty⟩, rfl, rfl, rfl, exponent_eq⟩
  refine List.map_injective_iff.mpr (Option.some_injective Char) ?_
  rw [parts]
  cases negative <;> cases written <;> simp [numeral, Numeral.text, Numeral.front, Decimal.Sign.text, markedText]

/-- Characters that need no escape are the pieces of a string. -/
theorem readPieces_eq (plain : ∀ c ∈ cs, 0x20 ≤ c.toNat ∧ c ≠ '"' ∧ c ≠ '\\') (rest : List Sign) :
    readPieces (cs.map some ++ some '"' :: rest) = some (cs.map Piece.char, rest) := by
  induction cs with
  | nil => rfl
  | cons c cs inductionHypothesis =>
      rw [List.forall_mem_cons] at plain
      obtain ⟨⟨visible, noQuote, noEscape⟩, plain⟩ := plain
      rw [List.map_cons, List.cons_append, readPieces, if_neg (by simp [noEscape, visible]), inductionHypothesis plain]
      · rfl
      all_goals simp_all

theorem joinPieces_map_char (cs : List Char) : joinPieces (cs.map Piece.char) = some cs := by
  induction cs with
  | nil => rfl
  | cons c cs inductionHypothesis => rw [List.map_cons, joinPieces, inductionHypothesis]; rfl

/-- The characters of a numeral in quotes are a text of these characters. -/
theorem readToken_quoted (numeral : Numeral) (rest : List Sign) :
    readToken (some '"' :: (numeral.text.map some ++ some '"' :: rest)) =
      some (.string (some (String.ofList numeral.text)), rest) := by
  have plain : ∀ c ∈ numeral.text, 0x20 ≤ c.toNat ∧ c ≠ '"' ∧ c ≠ '\\' := by
    intro c member
    rcases Decimal.isRow_or_mark numeral member with row | mark
    · have visible := Decimal.visible_of_isRow row
      refine ⟨by omega, ?_, ?_⟩ <;> rintro rfl <;> cases row
    · have marks : ∀ c ∈ ['.', '+', '-', 'e', 'E'], 0x20 ≤ c.toNat ∧ c ≠ '"' ∧ c ≠ '\\' := by simp
      exact marks c mark
  rw [readToken, readPieces_eq plain rest, Option.map_some]
  dsimp only
  rw [joinPieces_map_char]
  rfl

end Reading

/-! ### The digits of a literal -/

namespace NumberLiteral

/-- The digits of a literal, read as one natural number. -/
def significand (literal : NumberLiteral) : ℕ := appendRow 0 (literal.whole ++ literal.fraction)

/-- By how many places the exponent moves the point to the right. -/
def shift (literal : NumberLiteral) : ℤ :=
  match literal.exponent with
  | none => 0
  | some exponent => if exponent.negative then -(Exponent.magnitude exponent : ℤ) else Exponent.magnitude exponent

def lastPlace (literal : NumberLiteral) : ℤ := literal.shift - literal.fraction.length

/-- A literal of at most fifteen digits, leading zeros left aside, that a decimal has room for and whose last place is
not too far from the point. -/
structure IsShort (literal : NumberLiteral) : Prop where
  digits : literal.significand < 10 ^ 15
  decimals : literal.fraction.length ≤ 28
  exponent : ∀ exponent, literal.exponent = some exponent → Exponent.magnitude exponent ≤ 28
  least : -22 ≤ literal.lastPlace
  greatest : literal.lastPlace ≤ 22
  inRange : literal.significand * 10 ^ literal.lastPlace.toNat < Decimal.mantissaBound

variable {literal : NumberLiteral} {numeral : Numeral} {row : List Char} {n : ℕ}

theorem magnitude_eq (exponent : Decimal.Exponent) :
    Exponent.magnitude ⟨exponent.minus, exponent.digits⟩ = exponent.places :=
  Decimal.foldl_digits exponent.plain 0

namespace Spells

variable (spells : literal.Spells numeral)
include spells

theorem significand_eq : numeral.significand = literal.significand := by
  rw [Numeral.significand, spells.whole, spells.decimals, significand]

theorem lastPlace_eq : numeral.lastPlace = literal.lastPlace := by
  rw [Numeral.lastPlace, Numeral.shift, spells.decimals, lastPlace, shift, spells.exponent]
  cases numeral.exponent with
  | none => rfl
  | some exponent =>
      rw [Option.map_some]
      dsimp only
      rw [magnitude_eq]

theorem hasRoom (short : literal.IsShort) : numeral.HasRoom where
  decimals := spells.decimals ▸ short.decimals
  places exponent written := by
    have few := short.exponent ⟨exponent.minus, exponent.digits⟩ (by rw [spells.exponent, written]; rfl)
    rwa [magnitude_eq] at few
  least := by
    have least := short.least
    rw [spells.lastPlace_eq, Decimal.maxScale]
    omega
  inRange := by
    rw [spells.significand_eq, spells.lastPlace_eq]
    exact short.inRange

end Spells

/-! ### Rounding a literal -/

/-- All digits are gathered that there is room for. -/
theorem gather_eq (plain : Plain row) (fits : appendRow n row < significandBound) :
    gather row n = (appendRow n row, []) := by
  induction row generalizing n with
  | nil => rfl
  | cons c row inductionHypothesis =>
      have step : appendRow n (c :: row) = appendRow (n * 10 + digitValue c) row :=
        Decimal.appendRow_of_digit (Decimal.digit?_eq_some (plain c List.mem_cons_self)) n
      have room : n * 10 + digitValue c < significandBound :=
        Nat.lt_of_le_of_lt (Decimal.le_appendRow _ row) (step ▸ fits)
      rw [gather, if_pos room, inductionHypothesis plain.tail (step ▸ fits), step]

/-- The magnitude of a literal whose digits there is room for is rounded from its digits and the place of the last
of them. -/
theorem magnitude?_eq (spells : literal.Spells numeral) (fits : literal.significand < significandBound)
    (few : ∀ exponent, literal.exponent = some exponent → Exponent.magnitude exponent < exponentBound) :
    literal.magnitude? = scale literal.significand literal.lastPlace := by
  have digits : literal.significand = appendRow (appendRow 0 literal.whole) literal.fraction :=
    Decimal.appendRow_append ..
  have plain : Plain literal.whole := spells.whole ▸ spells.plain.whole
  have plain' : Plain literal.fraction := spells.decimals ▸ spells.plain.decimals
  rw [digits] at fits
  have front := gather_eq plain (Nat.lt_of_le_of_lt (Decimal.le_appendRow _ literal.fraction) fits)
  have back := gather_eq plain' fits
  unfold magnitude?
  rw [front]
  dsimp only
  rw [back, ← digits]
  unfold lastPlace shift
  cases exponent : literal.exponent with
  | none => simp
  | some exponent' =>
      have small := few exponent' exponent
      simp only [if_pos small]
      cases exponent'.negative <;> simp <;> ring_nf

open Double (nearest? exists_nearest? toRat_of_nearest? RoundedTo)

/-- A natural number of fewer than 53 bits has a magnitude. -/
theorem exists_nearest?_natural {n : ℕ} (positive : 0 < n) (small : n < Double.mantissaBound) :
    ∃ x, nearest? n 1 = some x ∧ x.toRat = n := by
  have small' : ((n : ℕ) : ℚ) / (1 : ℕ) < 2 ^ (150 : ℤ) := by
    have less : (n : ℚ) < 2 ^ 53 := by
      rw [← Double.cast_mantissaBound]
      exact_mod_cast small
    rw [Nat.cast_one, div_one]
    exact less.trans (by norm_num)
  obtain ⟨x, nearest, _⟩ := exists_nearest? positive Nat.one_pos small'
  refine ⟨x, nearest, ?_⟩
  rw [toRat_of_nearest? positive Nat.one_pos nearest small (by decide : Double.leastExponent ≤ 0) (by simp)]
  simp

/-- So has a power of ten up to the 22nd. -/
theorem toRat_powerOfTen {k : ℕ} (few : k ≤ 22) : (powerOfTen k).toRat = 10 ^ k := by
  have positive : 0 < 10 ^ k := by positivity
  have small : ((10 ^ k : ℕ) : ℚ) / (1 : ℕ) < 2 ^ (150 : ℤ) := by
    have less : (10 : ℚ) ^ k ≤ 10 ^ 22 := pow_le_pow_right₀ (by norm_num) few
    norm_num at less ⊢
    linarith
  obtain ⟨x, nearest, _⟩ := exists_nearest? positive Nat.one_pos small
  have odd : 5 ^ k < Double.mantissaBound := Nat.lt_of_le_of_lt (Nat.pow_le_pow_right (by decide) few) (by decide)
  have parts : ((10 ^ k : ℕ) : ℚ) / (1 : ℕ) = (5 ^ k : ℕ) * (2 : ℚ) ^ (k : ℤ) := by
    rw [zpow_natCast]
    push_cast
    rw [div_one, ← mul_pow]
    norm_num
  have least : Double.leastExponent ≤ (k : ℤ) := by
    unfold Double.leastExponent
    omega
  rw [powerOfTen, nearest, Option.getD_some, toRat_of_nearest? positive Nat.one_pos nearest odd least parts]
  simp

/-- Digits in a place that is not too far from the point are rounded once. -/
theorem exists_scale {s : ℕ} {place : ℤ} (positive : 0 < s) (few : s < 10 ^ 15) (least : -22 ≤ place)
    (greatest : place ≤ 22) : ∃ x, scale s place = some x ∧ RoundedTo (s * (10 : ℚ) ^ place) x := by
  have small : s < Double.mantissaBound := Nat.lt_trans few (by decide)
  obtain ⟨y, nearest, y_eq⟩ := exists_nearest?_natural positive small
  have y_pos : 0 < y.toRat := by
    rw [y_eq]
    exact_mod_cast positive
  have notZero : y.isZero = false := by simpa [Double.isZero] using (Double.mantissa_pos y_pos).ne'
  have digit : (s : ℚ) < 10 ^ 15 := by exact_mod_cast few
  rw [scale, nearest, Option.bind_eq_bind, Option.bind_some, notZero]
  simp only [Bool.false_eq_true, if_false]
  split
  · rename_i right
    have power := toRat_powerOfTen (k := place.toNat) (by omega)
    have small : y.toRat * (powerOfTen place.toNat).toRat < 2 ^ (150 : ℤ) := by
      have last : (10 : ℚ) ^ place.toNat ≤ 10 ^ 22 := pow_le_pow_right₀ (by norm_num) (by omega)
      rw [power, y_eq]
      calc (s : ℚ) * 10 ^ place.toNat ≤ 10 ^ 15 * 10 ^ 22 := by gcongr
        _ < 2 ^ (150 : ℤ) := by norm_num
    obtain ⟨x, product, rounded⟩ := Double.exists_mul? y_pos (by rw [power]; positivity) small
    refine ⟨x, by rw [if_pos (by unfold greatestPower; omega), product], ?_⟩
    rw [y_eq, power, ← zpow_natCast, Int.toNat_of_nonneg right] at rounded
    exact rounded
  · rename_i left
    have power := toRat_powerOfTen (k := place.natAbs) (by omega)
    have small : y.toRat / (powerOfTen place.natAbs).toRat < 2 ^ (150 : ℤ) := by
      have first : (1 : ℚ) ≤ 10 ^ place.natAbs := one_le_pow₀ (by norm_num)
      rw [power, y_eq]
      calc (s : ℚ) / 10 ^ place.natAbs ≤ s := div_le_self (Nat.cast_nonneg s) first
        _ < 10 ^ 15 := digit
        _ < 2 ^ (150 : ℤ) := by norm_num
    obtain ⟨x, quotient, rounded⟩ := Double.exists_div? y_pos (by rw [power]; positivity) small
    refine ⟨x, by rw [if_pos (by unfold greatestPower; omega), quotient], ?_⟩
    have place_eq : place = -(place.natAbs : ℤ) := by omega
    rw [y_eq, power, div_eq_mul_inv, ← zpow_natCast, ← zpow_neg, ← place_eq] at rounded
    exact rounded

end NumberLiteral

end Passbook.Json

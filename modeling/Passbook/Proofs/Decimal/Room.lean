import Passbook.Proofs.Decimal.Reading
import Passbook.Proofs.Decimal.Writing
/-!
# Numerals that there is room for

A numeral without separators is read, and as exactly the number that is written, if a decimal has room for all of its
digits: before the point is moved by an exponent, and after.
-/

namespace Passbook.Decimal

-- Powers are those of natural numbers and integers, whatever else is in scope.
attribute [local instance (2000)] instPowNat

namespace Numeral

variable {numeral : Numeral}

/-- The digits behind the point. -/
def decimals (numeral : Numeral) : List Char := numeral.fraction.getD []

/-- The digits of the number, read as one natural number. -/
def significand (numeral : Numeral) : ℕ := appendRow 0 (numeral.whole ++ numeral.decimals)

/-- There are digits in front of the point and behind the mark of an exponent, and no separators. -/
structure Plain (numeral : Numeral) : Prop where
  whole : Decimal.Plain numeral.whole
  something : numeral.whole ≠ []
  decimals : Decimal.Plain numeral.decimals
  exponent : ∀ exponent, numeral.exponent = some exponent → exponent.digits ≠ []

/-- By how many places the exponent moves the point to the right. -/
def shift (numeral : Numeral) : ℤ :=
  match numeral.exponent with
  | none => 0
  | some exponent => if exponent.minus then -(exponent.places : ℤ) else exponent.places

def lastPlace (numeral : Numeral) : ℤ := numeral.shift - numeral.decimals.length

/-- A decimal has room for the digits of the number, with its point where it is written and where it is moved to. -/
structure HasRoom (numeral : Numeral) : Prop where
  decimals : numeral.decimals.length ≤ maxScale
  places : ∀ exponent, numeral.exponent = some exponent → exponent.places ≤ maxScale
  least : -(maxScale : ℤ) ≤ numeral.lastPlace
  inRange : numeral.significand * 10 ^ numeral.lastPlace.toNat < mantissaBound

theorem HasRoom.digits (room : numeral.HasRoom) : numeral.significand < mantissaBound :=
  Nat.lt_of_le_of_lt (Nat.le_mul_of_pos_right _ (by positivity)) room.inRange

/-- The number is so many units of its last place. -/
theorem value_eq (plain : numeral.Plain) :
    numeral.value = signed (numeral.sign = .minus) (numeral.significand * (10 : ℚ) ^ numeral.lastPlace) := by
  have base : numeral.base = signed (numeral.sign = .minus)
      (numeral.significand * (10 : ℚ) ^ (-(numeral.decimals.length : ℤ))) := by
    rw [zpow_neg, zpow_natCast, ← div_eq_mul_inv, ← plain.decimals.digitCount_eq]
    rfl
  unfold value lastPlace shift
  cases numeral.exponent with
  | none => rw [base, zero_sub]
  | some exponent =>
      dsimp only
      rw [Exponent.shift, base]
      cases exponent.minus with
      | true =>
          rw [if_pos rfl, if_pos rfl, sub_eq_add_neg, zpow_add₀ (by norm_num), zpow_neg _ (exponent.places : ℤ),
            zpow_natCast, div_eq_mul_inv, signed_mul]
          congr 1
          ring
      | false =>
          rw [if_neg Bool.false_ne_true, if_neg Bool.false_ne_true, sub_eq_add_neg, zpow_add₀ (by norm_num),
            zpow_natCast, signed_mul]
          congr 1
          ring

end Numeral

section Reading

variable {numeral : Numeral} {base : Decimal} {d : Decimal}

theorem ofParts?_of_fits {negative : Bool} {mantissa scale : ℕ} (fits : mantissa < mantissaBound)
    (short : scale ≤ maxScale) : ofParts? negative mantissa scale = some ⟨negative, mantissa, scale, fits, short⟩ :=
  dif_pos ⟨fits, short⟩

/-- The digits of a plain numeral are read behind its sign. -/
theorem readWhole_of_room (plain : numeral.Plain) (negative : Bool) (fits : numeral.significand < mantissaBound)
    (short : numeral.decimals.length ≤ maxScale) :
    readWhole (numeral.whole ++ pointed numeral.fraction) false { zero with negative := negative } =
      .ok (⟨negative, numeral.significand, numeral.decimals.length, fits, short⟩ : Decimal).unsignZero := by
  have seen : (!numeral.whole.isEmpty) = true := by simpa using plain.something
  have digits : numeral.significand = appendRow (appendRow 0 numeral.whole) numeral.decimals := appendRow_append ..
  have fits' : appendRow ({ zero with negative := negative } : Decimal).mantissa numeral.whole < mantissaBound :=
    Nat.lt_of_le_of_lt (le_appendRow _ numeral.decimals) (digits ▸ fits)
  rw [readWhole_plain plain.whole fits', Bool.false_or, seen]
  cases fraction : numeral.fraction with
  | none =>
      have none' : numeral.decimals = [] := by rw [Numeral.decimals, fraction]; rfl
      have length : numeral.decimals.length = 0 := by rw [none']; rfl
      rw [none'] at digits
      exact congrArg (fun d : Decimal => Except.ok d.unsignZero) (eq_of_parts rfl digits.symm length.symm)
  | some row =>
      have row' : numeral.decimals = row := by rw [Numeral.decimals, fraction]; rfl
      have length : numeral.decimals.length = row.length := by rw [row']
      have plain' : Decimal.Plain row := row' ▸ plain.decimals
      have noDigit : digit? '.' = none := rfl
      rw [row'] at digits
      simp only [pointed, readWhole, noDigit, if_true]
      rw [readFraction_plain plain' (digits ▸ fits) (by simpa only [zero, Nat.zero_add, length] using short)]
      refine congrArg (fun d : Decimal => Except.ok d.unsignZero) (eq_of_parts rfl digits.symm ?_)
      simp only [zero, length, Nat.zero_add]

@[simp] theorem mantissa_unsignZero (d : Decimal) : d.unsignZero.mantissa = d.mantissa := by
  unfold unsignZero
  split <;> rfl

@[simp] theorem scale_unsignZero (d : Decimal) : d.unsignZero.scale = d.scale := by
  unfold unsignZero
  split <;> rfl

def Numeral.HasRoom.front (room : numeral.HasRoom) : Decimal :=
  unsignZero ⟨numeral.sign = .minus, numeral.significand, numeral.decimals.length, room.digits, room.decimals⟩

theorem Numeral.HasRoom.mantissa_front (room : numeral.HasRoom) : room.front.mantissa = numeral.significand :=
  mantissa_unsignZero _

theorem Numeral.HasRoom.scale_front (room : numeral.HasRoom) : room.front.scale = numeral.decimals.length :=
  scale_unsignZero _

theorem Numeral.HasRoom.toRat_front (room : numeral.HasRoom) (plain : numeral.Plain) :
    room.front.toRat = numeral.base := by
  rw [front, toRat_unsignZero, toRat, base]
  exact congrArg (fun count : ℕ => signed _ ((numeral.significand : ℚ) / 10 ^ count)) plain.decimals.digitCount_eq.symm

/-- A plain numeral is read up to its exponent. -/
theorem parsePlain_of_room (plain : numeral.Plain) (room : numeral.HasRoom) :
    parsePlain numeral.front = .ok room.front := by
  have read := fun negative => readWhole_of_room plain negative room.digits room.decimals
  unfold Numeral.front Numeral.HasRoom.front
  cases sign : numeral.sign with
  | none => exact (parsePlain_plain plain.whole plain.something).trans (read false)
  | plus => exact read false
  | minus => exact read true

/-- The point is moved to the left, and no digit is rounded off where there is room for as many decimals. -/
theorem exists_shiftLeft {places : ℕ} (few : d.scale + places ≤ maxScale) :
    ∃ result, d.shiftLeft places = .ok result ∧ result.toRat = d.toRat / 10 ^ places := by
  have kept : roundDiv .away d.mantissa (10 ^ 0) = d.mantissa := by
    rw [pow_zero, ← Nat.one_mul d.mantissa, roundDiv_mul_left _ _ Nat.one_pos, Nat.one_mul]
  have shifted : d.shiftLeft places = .ok ⟨d.negative, d.mantissa, d.scale + places, d.mantissa_lt, few⟩ := by
    unfold shiftLeft
    rw [if_neg (by omega), Nat.sub_eq_zero_of_le few]
    dsimp only
    rw [kept, Nat.sub_zero, ofParts?_of_fits d.mantissa_lt few]
  refine ⟨_, shifted, ?_⟩
  show signed d.negative ((d.mantissa : ℚ) / 10 ^ (d.scale + places)) = _
  rw [pow_add, ← div_div, div_eq_mul_inv _ ((10 : ℚ) ^ places), ← signed_mul, ← div_eq_mul_inv]
  rfl

/-- The point is moved to the right where there is room for the zeros that are appended. -/
theorem exists_shiftRight {places : ℕ} (few : places ≤ maxScale)
    (fits : d.mantissa * 10 ^ (places - d.scale) < mantissaBound) :
    ∃ result, d.shiftRight places = .ok result ∧ result.toRat = d.toRat * 10 ^ places := by
  have shifted : ∃ result, d.shiftRight places = .ok result := by
    unfold shiftRight
    split
    · exact ⟨_, rfl⟩
    · rw [if_neg (by omega), ofParts?_of_fits fits (Nat.zero_le _)]
      exact ⟨_, rfl⟩
  obtain ⟨result, shifted⟩ := shifted
  exact ⟨result, shifted, shiftRight_toRat shifted⟩

/-- An exponent is read if it is not too large. -/
theorem readExponent_of_room (exponent : Exponent) (some : exponent.digits ≠ []) (few : exponent.places ≤ maxScale) :
    readExponent ((if exponent.plus then ['+'] else []) ++ exponent.digits) = .ok exponent.places := by
  have small : exponent.places < 2 ^ 32 := Nat.lt_of_le_of_lt few (by decide)
  rw [readExponent_eq, if_pos ⟨some, small⟩]

theorem parseScientific_of_room {exponent : Exponent} (written : numeral.exponent = some exponent)
    (plain : numeral.Plain) (room : numeral.HasRoom) :
    ∃ result, parseScientific (numeral.front ++ exponent.mark :: exponent.tail) = .ok result ∧
      result.toRat = exponent.shift numeral.base := by
  obtain ⟨front, back⟩ := takeWhile_text numeral exponent
  have read := readExponent_of_room exponent (plain.exponent exponent written) (room.places exponent written)
  unfold parseScientific
  rw [front, back, parsePlain_of_room plain room, ← room.toRat_front plain]
  have mantissa := room.mantissa_front
  have scale := room.scale_front
  generalize room.front = base at *
  unfold Exponent.shift
  cases minus : exponent.minus with
  | true =>
      have few : base.scale + exponent.places ≤ maxScale := by
        have least := room.least
        simp only [Numeral.lastPlace, Numeral.shift, written, minus, if_true] at least
        omega
      obtain ⟨result, shifted, same⟩ := exists_shiftLeft few
      refine ⟨result, ?_, same⟩
      simp only [Exponent.tail, minus, List.tail_cons, if_true, List.cons_append, List.nil_append, read, bind,
        Except.bind]
      exact shifted
  | false =>
      have fits : base.mantissa * 10 ^ (exponent.places - base.scale) < mantissaBound := by
        have inRange := room.inRange
        have places : numeral.lastPlace.toNat = exponent.places - base.scale := by
          simp only [Numeral.lastPlace, Numeral.shift, written, minus, Bool.false_eq_true, if_false]
          omega
        rwa [places, ← mantissa] at inRange
      obtain ⟨result, shifted, same⟩ := exists_shiftRight (room.places exponent written) fits
      refine ⟨result, ?_, same⟩
      simp only [Exponent.tail, minus, List.tail_cons, Bool.false_eq_true, if_false, List.nil_append, bind,
        Except.bind]
      split
      · rename_i rest signed
        exact absurd signed (exponent.ne_minus rest)
      · rw [read]
        exact shifted

/-- A plain numeral is read, and as the number that is written, if there is room for its digits. -/
theorem exists_parse_of_room {text : String} (spelled : text.toList = numeral.text) (plain : numeral.Plain)
    (room : numeral.HasRoom) : ∃ result, parse text = .ok result ∧ result.toRat = numeral.value := by
  have front := parsePlain_of_room plain room
  cases written : numeral.exponent with
  | none =>
      have text' : text.toList = numeral.front := by simp [spelled, Numeral.text, written]
      have value : numeral.value = numeral.base := by simp [Numeral.value, written]
      refine ⟨_, ?_, (room.toRat_front plain).trans value.symm⟩
      simp only [parse, text', front]
  | some exponent =>
      have text' : text.toList = numeral.front ++ exponent.mark :: exponent.tail := by
        simp [spelled, Numeral.text, written]
      have value : numeral.value = exponent.shift numeral.base := by simp [Numeral.value, written]
      have marked : text.toList.any isExponentMark = true := by
        rw [text', List.any_eq_true]
        exact ⟨exponent.mark, by simp, exponent.isMark⟩
      obtain ⟨result, scientific, same⟩ := parseScientific_of_room written plain room
      refine ⟨result, ?_, same.trans value.symm⟩
      cases read : parsePlain text.toList with
      | ok _ =>
          have unmarked := not_isExponentMark_of_parsePlain read exponent.mark (by simp [text'])
          rw [exponent.isMark] at unmarked
          cases unmarked
      | error e =>
          simp only [parse, read, marked, if_true]
          rw [text']
          exact scientific

end Reading

/-- A text spells a number: it is a plain numeral of the number, and a decimal has room for it. -/
def Spells (text : String) (number : ℚ) : Prop :=
  ∃ numeral : Numeral, text.toList = numeral.text ∧ numeral.Plain ∧ numeral.HasRoom ∧ numeral.value = number

theorem Spells.exists_parse {text : String} {number : ℚ} (spells : Spells text number) :
    ∃ result, parse text = .ok result ∧ result.toRat = number := by
  obtain ⟨numeral, spelled, plain, room, rfl⟩ := spells
  exact exists_parse_of_room spelled plain room

/-! ### Numerals put together -/

section Parts

variable {whole decimals : List Char}

/-- How a minus sign is written, if there is one. -/
def minusText (negative : Bool) : List Char := if negative then ['-'] else []

/-- Digits with a sign spell a whole number. -/
theorem Spells.of_whole (negative : Bool) (plain : Plain whole) (something : whole ≠ [])
    (fits : appendRow 0 whole < mantissaBound) :
    Spells (String.ofList (minusText negative ++ whole)) (signed negative (appendRow 0 whole)) := by
  let numeral : Numeral := ⟨if negative then .minus else .none, whole, none, none, plain.isRow, List.forall_mem_nil _⟩
  have plainly : numeral.Plain := ⟨plain, something, List.forall_mem_nil _, by rintro _ ⟨⟩⟩
  have significand : numeral.significand = appendRow 0 whole := by
    simp [numeral, Numeral.significand, Numeral.decimals]
  have lastPlace : numeral.lastPlace = 0 := rfl
  refine ⟨numeral, ?_, plainly, ⟨Nat.zero_le _, by rintro _ ⟨⟩, ?_, ?_⟩, ?_⟩
  · cases negative <;> simp [numeral, Numeral.text, Numeral.front, Sign.text, pointed, minusText]
  · rw [lastPlace]
    decide
  · simpa [significand, lastPlace] using fits
  · rw [Numeral.value_eq plainly, significand, lastPlace]
    cases negative <;> simp [numeral]

/-- Digits with a sign and a point among them spell a number. -/
theorem Spells.of_decimals (negative : Bool) (plain : Plain whole) (something : whole ≠ []) (plain' : Plain decimals)
    (short : decimals.length ≤ maxScale) (fits : appendRow 0 (whole ++ decimals) < mantissaBound) :
    Spells (String.ofList (minusText negative ++ (whole ++ '.' :: decimals)))
      (signed negative (appendRow 0 (whole ++ decimals) * (10 : ℚ) ^ (-(decimals.length : ℤ)))) := by
  let numeral : Numeral :=
    ⟨if negative then .minus else .none, whole, some decimals, none, plain.isRow, plain'.isRow⟩
  have plainly : numeral.Plain := ⟨plain, something, plain', by rintro _ ⟨⟩⟩
  have lastPlace : numeral.lastPlace = -(decimals.length : ℤ) := zero_sub _
  refine ⟨numeral, ?_, plainly, ⟨short, by rintro _ ⟨⟩, ?_, ?_⟩, ?_⟩
  · cases negative <;> simp [numeral, Numeral.text, Numeral.front, Sign.text, pointed, minusText]
  · rw [lastPlace]
    omega
  · rw [lastPlace, show (-(decimals.length : ℤ)).toNat = 0 by omega, pow_zero, Nat.mul_one]
    exact fits
  · rw [Numeral.value_eq plainly, lastPlace]
    cases negative <;> rfl

/-- Digits with a sign, perhaps a point among them, and a signed exponent spell a number. -/
theorem Spells.of_exponent (negative : Bool) (plain : Plain whole) (something : whole ≠ []) (plain' : Plain decimals)
    (exponent : ℤ) (short : decimals.length ≤ maxScale) (small : exponent.natAbs ≤ maxScale)
    (least : -(maxScale : ℤ) ≤ exponent - decimals.length)
    (fits : appendRow 0 (whole ++ decimals) * 10 ^ (exponent - decimals.length).toNat < mantissaBound) :
    Spells (String.ofList (minusText negative ++ (whole ++ (if decimals = [] then [] else '.' :: decimals) ++
        'e' :: (if exponent < 0 then '-' else '+') :: Nat.toDigits 10 exponent.natAbs)))
      (signed negative (appendRow 0 (whole ++ decimals) * (10 : ℚ) ^ (exponent - decimals.length))) := by
  let written : Exponent := ⟨'e', exponent < 0, ¬ exponent < 0, Nat.toDigits 10 exponent.natAbs, rfl, plain_toDigits _⟩
  let numeral : Numeral :=
    ⟨if negative then .minus else .none, whole, if decimals = [] then none else some decimals, some written,
      plain.isRow, by split <;> [exact List.forall_mem_nil _; exact plain'.isRow]⟩
  have decimals_eq : numeral.decimals = decimals := by
    by_cases empty : decimals = [] <;> simp [numeral, Numeral.decimals, empty]
  have places : written.places = exponent.natAbs := appendRow_toDigits _
  have plainly : numeral.Plain := by
    refine ⟨plain, something, decimals_eq ▸ plain', ?_⟩
    rintro _ ⟨⟩
    exact Nat.toDigits_ne_nil
  have lastPlace : numeral.lastPlace = exponent - decimals.length := by
    have shift : numeral.shift = exponent := by
      show (if decide (exponent < 0) = true then -(written.places : ℤ) else written.places) = exponent
      simp only [places, decide_eq_true_eq]
      split <;> omega
    rw [Numeral.lastPlace, shift, decimals_eq]
  have significand : numeral.significand = appendRow 0 (whole ++ decimals) := by
    rw [Numeral.significand, decimals_eq]
  refine ⟨numeral, ?_, plainly, ⟨decimals_eq ▸ short, ?_, lastPlace ▸ least, ?_⟩, ?_⟩
  · rcases lt_or_ge exponent 0 with minus | plus
    · by_cases empty : decimals = [] <;> cases negative <;>
        simp [numeral, written, Numeral.text, Numeral.front, Sign.text, pointed, minusText, Exponent.tail, minus, empty]
    · by_cases empty : decimals = [] <;> cases negative <;>
        simp [numeral, written, Numeral.text, Numeral.front, Sign.text, pointed, minusText, Exponent.tail, plus.not_gt,
          empty]
  · rintro _ ⟨⟩
    exact places ▸ small
  · rw [significand, lastPlace]
    exact fits
  · rw [Numeral.value_eq plainly, significand, lastPlace]
    cases negative <;> rfl

end Parts

end Passbook.Decimal

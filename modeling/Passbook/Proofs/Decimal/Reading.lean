import Passbook.Proofs.Decimal.Numeral
/-!
# Reading numerals

The reader of decimals keeps as many of the digits as a decimal has room for and rounds the rest away, so that
it comes to the number that is written only if a decimal stands for that number; where there is an exponent a
decimal has to stand for the number in front of it as well, since that is read first.
-/

namespace Passbook.Decimal

-- Powers are those of natural numbers and integers, whatever else is in scope.
attribute [local instance (2000)] instPowNat

/-! ### Reading digits -/

section Reading

variable {d result : Decimal} {digit : ℕ} {digitSeen : Bool} {row : List Char}

theorem finish_eq_ok (finished : finish digitSeen d = .ok result) : result = d.unsignZero := by
  unfold finish at finished
  split at finished
  · exact (Except.ok.inj finished).symm
  · cases finished

/-- A decimal with one more digit. -/
theorem appendFractionDigit?_eq_some (fits : d.appendFractionDigit? digit = some result) :
    result.negative = d.negative ∧ result.mantissa = d.mantissa * 10 + digit ∧
      result.scale = d.scale + 1 := by
  unfold appendFractionDigit? at fits
  split at fits
  · cases fits
    exact ⟨rfl, rfl, rfl⟩
  · cases fits

/-- A decimal with room for no more digits is full. -/
theorem full_of_appendFractionDigit?_eq_none (full : d.appendFractionDigit? digit = none) :
    d.scale = maxScale ∨ mantissaBound ≤ d.mantissa * 10 + digit := by
  unfold appendFractionDigit? at full
  split at full
  · cases full
  · rename_i noRoom
    have small := d.scale_le
    omega

theorem appendDigit?_eq_some (fits : d.appendDigit? digit = some result) :
    result.negative = d.negative ∧ result.mantissa = d.mantissa * 10 + digit ∧ result.scale = d.scale := by
  unfold appendDigit? at fits
  split at fits
  · cases fits
    exact ⟨rfl, rfl, rfl⟩
  · cases fits

/-- Digits that come to nothing leave the number what it is. -/
private theorem toRat_of_restOf_eq_zero (nothing : restOf row = 0) :
    d.toRat = signed d.negative (appendRow d.mantissa row / 10 ^ (d.scale + digitCount row)) := by
  rw [appendRow_div, nothing, add_zero, toRat]

/-- The reader behind the point comes to the number that is written if a decimal stands for it. -/
theorem readFraction_toRat (plain : ∀ c ∈ row, isRow c = true)
    (read : readFraction row digitSeen d = .ok result)
    (representable : Representable
      (signed d.negative (appendRow d.mantissa row / 10 ^ (d.scale + digitCount row)))) :
    result.toRat = signed d.negative (appendRow d.mantissa row / 10 ^ (d.scale + digitCount row)) := by
  induction row generalizing digitSeen d with
  | nil =>
      rw [finish_eq_ok read, toRat_unsignZero]
      exact toRat_of_restOf_eq_zero (by simp [restOf, appendRow])
  | cons c row inductionHypothesis =>
      have plain' : ∀ c ∈ row, isRow c = true := fun c member => plain c (List.mem_cons_of_mem _ member)
      -- A decimal that is full is what is written only if nothing is behind it.
      have settle : d.scale = maxScale ∨ mantissaBound ≤ 10 * ((d.mantissa : ℚ) + restOf (c :: row)) →
          restOf (c :: row) = 0 := fun full => by
        rw [appendRow_div] at representable
        exact rest_eq_zero_of_full (restOf_nonneg _) (restOf_lt_one _) full representable
      cases isDigit : digit? c with
      | some digit =>
          simp only [readFraction, isDigit] at read
          split at read
          · rename_i longer fits
            obtain ⟨negative, mantissa, scale⟩ := appendFractionDigit?_eq_some fits
            have same : signed longer.negative
                (appendRow longer.mantissa row / 10 ^ (longer.scale + digitCount row)) =
                signed d.negative
                  (appendRow d.mantissa (c :: row) / 10 ^ (d.scale + digitCount (c :: row))) := by
              rw [negative, mantissa, scale, appendRow_of_digit isDigit, digitCount_of_digit isDigit,
                Nat.add_right_comm, Nat.add_assoc]
            rw [← same]
            exact inductionHypothesis plain' read (same ▸ representable)
          · rename_i noRoom
            have atLeast : (digit : ℚ) ≤ 10 * restOf (c :: row) := digit_le_restOf isDigit
            have nothing := settle <| by
              refine (full_of_appendFractionDigit?_eq_none noRoom).imp (fun last => last) fun full => ?_
              have full' : (mantissaBound : ℚ) ≤ d.mantissa * 10 + digit := by exact_mod_cast full
              linarith
            have zero : digit = 0 := by
              rw [nothing, mul_zero] at atLeast
              exact_mod_cast atLeast.antisymm (Nat.cast_nonneg digit)
            subst zero
            cases skipped : skipDigits row with
            | error e =>
                simp only [roundBy, bind, Except.bind, skipped] at read
                cases read
            | ok _ =>
                simp only [roundBy, bind, Except.bind, skipped] at read
                rw [finish_eq_ok read, toRat_unsignZero]
                exact toRat_of_restOf_eq_zero nothing
      | none =>
          have separator := eq_separator (plain c List.mem_cons_self) isDigit
          simp only [readFraction, isDigit] at read
          split at read
          · split at read
            · rename_i ends
              have last : d.scale = maxScale := by
                simp only [separatorEnds, Bool.and_eq_true, beq_iff_eq] at ends
                exact ends.1
              have nothing := settle (.inl last)
              cases skipped : skipDigits row with
              | error e =>
                  simp only [bind, Except.bind, skipped] at read
                  cases read
              | ok _ =>
                  simp only [bind, Except.bind, skipped] at read
                  rw [finish_eq_ok read, toRat_unsignZero]
                  exact toRat_of_restOf_eq_zero nothing
            · rw [appendRow_of_separator isDigit, digitCount_of_separator isDigit] at representable ⊢
              exact inductionHypothesis plain' read representable
          · cases read

/-- So does the reader in front of the point. -/
theorem readWhole_toRat {fraction : Option (List Char)} (plain : ∀ c ∈ row, isRow c = true)
    (plain' : ∀ c ∈ fraction.getD [], isRow c = true) (scale : d.scale = 0)
    (read : readWhole (row ++ pointed fraction) digitSeen d = .ok result)
    (representable : Representable (signed d.negative
      (appendRow d.mantissa (row ++ fraction.getD []) / 10 ^ digitCount (fraction.getD [])))) :
    result.toRat = signed d.negative
      (appendRow d.mantissa (row ++ fraction.getD []) / 10 ^ digitCount (fraction.getD [])) := by
  induction row generalizing digitSeen d with
  | nil =>
      cases fraction with
      | none =>
          rw [finish_eq_ok read, toRat_unsignZero, toRat, scale]
          rfl
      | some decimals =>
          have noDigit : digit? '.' = none := rfl
          simp only [List.nil_append, pointed, readWhole, noDigit, if_true] at read
          simp only [Option.getD_some, List.nil_append] at plain' representable ⊢
          have places : digitCount decimals = d.scale + digitCount decimals := by rw [scale, Nat.zero_add]
          rw [places] at representable ⊢
          exact readFraction_toRat plain' read representable
  | cons c row inductionHypothesis =>
      have plain'' : ∀ c ∈ row, isRow c = true := fun c member => plain c (List.mem_cons_of_mem _ member)
      cases isDigit : digit? c with
      | some digit =>
          simp only [List.cons_append, readWhole, isDigit] at read
          split at read
          · rename_i longer fits
            obtain ⟨negative, mantissa, scale'⟩ := appendDigit?_eq_some fits
            rw [List.cons_append, appendRow_of_digit isDigit, ← mantissa, ← negative] at representable ⊢
            exact inductionHypothesis plain'' (scale'.trans scale) read representable
          · cases read
      | none =>
          cases eq_separator (plain c List.mem_cons_self) isDigit
          simp only [List.cons_append, readWhole, isDigit, Char.reduceEq, if_false, true_and] at read
          split at read
          · rw [List.cons_append, appendRow_of_separator isDigit] at representable ⊢
            exact inductionHypothesis plain'' scale read representable
          · cases read

end Reading

section Plain

variable {cs : List Char} {d result : Decimal} {digitSeen : Bool}

/-- A text without a sign in front is read from its first character on. -/
theorem parsePlain_of_unsigned (unsigned : ∀ c ∈ cs, c ≠ '-' ∧ c ≠ '+')
    (read : parsePlain cs = .ok result) : readWhole cs false zero = .ok result := by
  unfold parsePlain at read
  split at read
  · cases read
  · exact absurd rfl (unsigned _ List.mem_cons_self).1
  · exact absurd rfl (unsigned _ List.mem_cons_self).2
  · exact read

theorem ne_sign_of_isRow {c : Char} (plain : isRow c = true) : c ≠ '-' ∧ c ≠ '+' := by
  constructor <;> rintro rfl <;> cases plain

/-- Digits and separators are visible characters of ASCII. -/
theorem visible_of_isRow {c : Char} (plain : isRow c = true) : 0x21 ≤ c.toNat ∧ c.toNat ≤ 0x7E := by
  simp only [isRow, Char.isDigit, Bool.or_eq_true, Bool.and_eq_true, decide_eq_true_eq, beq_iff_eq] at plain
  rcases plain with ⟨atLeast, atMost⟩ | rfl
  · have atLeast' : 48 ≤ c.toNat := atLeast
    have atMost' : c.toNat ≤ 57 := atMost
    omega
  · decide

/-- The characters of a number that is written without sign and exponent. -/
theorem isRow_or_point (numeral : Numeral) {c : Char}
    (member : c ∈ numeral.whole ++ pointed numeral.fraction) : isRow c = true ∨ c = '.' := by
  rcases List.mem_append.mp member with inWhole | inFraction
  · exact .inl (numeral.plain c inWhole)
  · have plain' := numeral.plain'
    cases fraction : numeral.fraction with
    | none =>
        rw [fraction] at inFraction
        cases inFraction
    | some decimals =>
        rw [fraction] at inFraction plain'
        rcases List.mem_cons.mp inFraction with point | inDecimals
        · exact .inr point
        · exact .inl (plain' c inDecimals)

/-- The characters of a numeral. -/
theorem isRow_or_mark (numeral : Numeral) {c : Char} (member : c ∈ numeral.text) :
    isRow c = true ∨ c ∈ ['.', '+', '-', 'e', 'E'] := by
  rcases List.mem_append.mp member with inFront | inExponent
  · rcases List.mem_append.mp inFront with inSign | inNumber
    · right
      cases sign : numeral.sign <;> rw [sign] at inSign
      · cases inSign
      · rw [List.mem_singleton.mp inSign]
        decide
      · rw [List.mem_singleton.mp inSign]
        decide
    · exact (isRow_or_point numeral inNumber).imp_right fun point => by rw [point]; decide
  · cases written : numeral.exponent <;> rw [written] at inExponent
    · cases inExponent
    · rename_i exponent
      rcases List.mem_cons.mp inExponent with rfl | inTail
      · right
        rcases (Bool.or_eq_true _ _).mp exponent.isMark with mark | mark <;> rw [eq_of_beq mark] <;> decide
      · rcases List.mem_append.mp inTail with inMinus | inBehind
        · rw [List.mem_singleton.mp (List.mem_ite_nil_right.mp inMinus).2]
          decide
        · rcases List.mem_append.mp inBehind with inPlus | inDigits
          · rw [List.mem_singleton.mp (List.mem_ite_nil_right.mp inPlus).2]
            decide
          · left
            rw [isRow, exponent.plain c inDigits, Bool.true_or]

/-- The reader comes to the number in front of the exponent if a decimal stands for it. -/
theorem parsePlain_toRat (numeral : Numeral) (read : parsePlain numeral.front = .ok result)
    (representable : Representable numeral.base) : result.toRat = numeral.base := by
  unfold Numeral.front at read
  unfold Numeral.base at representable ⊢
  cases sign : numeral.sign with
  | none =>
      rw [sign] at read representable
      refine readWhole_toRat numeral.plain numeral.plain' rfl
        (parsePlain_of_unsigned (fun c member => ?_) read) representable
      rcases isRow_or_point numeral member with plain | rfl
      · exact ne_sign_of_isRow plain
      · decide
  | plus =>
      rw [sign] at read representable
      exact readWhole_toRat numeral.plain numeral.plain' rfl read representable
  | minus =>
      rw [sign] at read representable
      exact readWhole_toRat (d := { zero with negative := true }) numeral.plain numeral.plain' rfl read
        representable

end Plain

/-! ### Exponents -/

section Marks

variable {cs : List Char} {d result : Decimal} {digitSeen : Bool}

/-- A row of digits ends where the text ends. -/
theorem isRow_of_skipDigits (skipped : skipDigits cs = .ok ()) : ∀ c ∈ cs, isRow c = true := by
  induction cs with
  | nil => nofun
  | cons c rest inductionHypothesis =>
      unfold skipDigits at skipped
      split at skipped
      · rename_i plain
        exact List.forall_mem_cons.mpr ⟨plain, inductionHypothesis skipped⟩
      · cases skipped

theorem isRow_of_isDigit {c : Char} {digit : ℕ} (isDigit : digit? c = some digit) : isRow c = true := by
  unfold digit? at isDigit
  split at isDigit
  · rename_i plain
    rw [isRow, plain, Bool.true_or]
  · cases isDigit

theorem isRow_of_readFraction (read : readFraction cs digitSeen d = .ok result) :
    ∀ c ∈ cs, isRow c = true := by
  induction cs generalizing digitSeen d with
  | nil => nofun
  | cons c rest inductionHypothesis =>
      rw [List.forall_mem_cons]
      have skips : ∀ {kept : Decimal}, (skipDigits rest >>= fun _ => finish true kept) = .ok result →
          ∀ c ∈ rest, isRow c = true := fun {kept} read => by
        cases skipped : skipDigits rest with
        | error e =>
            rw [skipped] at read
            cases read
        | ok _ => exact isRow_of_skipDigits skipped
      cases isDigit : digit? c with
      | some digit =>
          refine ⟨isRow_of_isDigit isDigit, ?_⟩
          simp only [readFraction, isDigit] at read
          split at read
          · exact inductionHypothesis read
          · cases rounded : d.roundBy digit with
            | error e =>
                rw [rounded] at read
                cases read
            | ok kept =>
                rw [rounded] at read
                exact skips read
      | none =>
          simp only [readFraction, isDigit] at read
          split at read
          · rename_i separator
            refine ⟨by rw [separator.1]; rfl, ?_⟩
            split at read
            · exact skips read
            · exact inductionHypothesis read
          · cases read

theorem isRow_or_point_of_readWhole (read : readWhole cs digitSeen d = .ok result) :
    ∀ c ∈ cs, isRow c = true ∨ c = '.' := by
  induction cs generalizing digitSeen d with
  | nil => nofun
  | cons c rest inductionHypothesis =>
      rw [List.forall_mem_cons]
      cases isDigit : digit? c with
      | some digit =>
          refine ⟨.inl (isRow_of_isDigit isDigit), ?_⟩
          simp only [readWhole, isDigit] at read
          split at read
          · exact inductionHypothesis read
          · cases read
      | none =>
          simp only [readWhole, isDigit] at read
          split at read
          · rename_i point
            exact ⟨.inr point, fun c member => .inl (isRow_of_readFraction read c member)⟩
          · split at read
            · rename_i separator
              exact ⟨.inl (by rw [separator.1]; rfl), inductionHypothesis read⟩
            · cases read

theorem not_isExponentMark_of_isRow {c : Char} (plain : isRow c = true ∨ c = '.') : isExponentMark c = false := by
  refine Bool.eq_false_iff.mpr fun isMark => ?_
  rcases (by simpa [isExponentMark] using isMark : c = 'e' ∨ c = 'E') with rfl | rfl <;>
    exact absurd plain (by decide)

/-- A text with an exponent is not read as a number without one. -/
theorem not_isExponentMark_of_parsePlain (read : parsePlain cs = .ok result) :
    ∀ c ∈ cs, isExponentMark c = false := by
  unfold parsePlain at read
  split at read
  · cases read
  · rw [List.forall_mem_cons]
    exact ⟨rfl, fun c member => not_isExponentMark_of_isRow (isRow_or_point_of_readWhole read c member)⟩
  · rw [List.forall_mem_cons]
    exact ⟨rfl, fun c member => not_isExponentMark_of_isRow (isRow_or_point_of_readWhole read c member)⟩
  · exact fun c member => not_isExponentMark_of_isRow (isRow_or_point_of_readWhole read c member)

/-- Neither is there an exponent mark in front of an exponent. -/
theorem not_isExponentMark_of_mem_front (numeral : Numeral) :
    ∀ c ∈ numeral.front, isExponentMark c = false := by
  intro c member
  rcases List.mem_append.mp member with inSign | inNumber
  · cases sign : numeral.sign <;> rw [sign] at inSign
    · cases inSign
    · rw [List.mem_singleton.mp inSign]
      rfl
    · rw [List.mem_singleton.mp inSign]
      rfl
  · exact not_isExponentMark_of_isRow (isRow_or_point numeral inNumber)

end Marks

section Shifts

variable {d result : Decimal} {places : ℕ}

/-- Moving the point to the left comes to what it should if a decimal stands for that, and leaves as many
decimals as places at least. -/
theorem shiftLeft_toRat (shifted : d.shiftLeft places = .ok result) :
    places ≤ result.scale ∧
      (Representable (d.toRat / 10 ^ places) → result.toRat = d.toRat / 10 ^ places) := by
  unfold shiftLeft at shifted
  split at shifted
  · cases shifted
  · rename_i few
    dsimp only at shifted
    split at shifted
    · rename_i parts
      cases shifted
      obtain ⟨negative, mantissa, scale⟩ := ofParts?_eq_some parts
      have divided : d.toRat / 10 ^ places = signed d.negative (d.mantissa / 10 ^ (d.scale + places)) := by
        rw [div_eq_mul_inv, toRat, signed_mul, ← div_eq_mul_inv, div_div, ← pow_add]
      refine ⟨by omega, fun representable => ?_⟩
      rw [divided] at representable ⊢
      -- The digits that are dropped are zeros.
      obtain ⟨digits, kept⟩ : 10 ^ (d.scale + places - maxScale) ∣ d.mantissa := by
        obtain ⟨mantissa', scale', _, small, same⟩ := representable.exists_parts (by positivity)
        rcases Nat.le_total (d.scale + places) maxScale with within | beyond
        · rw [Nat.sub_eq_zero_of_le within, pow_zero]
          exact one_dvd _
        · obtain ⟨dropped, total⟩ := Nat.exists_eq_add_of_le beyond
          obtain ⟨unused, last⟩ := Nat.exists_eq_add_of_le small
          rw [total, Nat.add_sub_cancel_left]
          refine ⟨10 ^ unused * mantissa', ?_⟩
          rw [total, last, div_mul_eq_mul_div, div_eq_iff (by positivity)] at same
          have digits : (d.mantissa : ℚ) = 10 ^ dropped * (10 ^ unused * mantissa') := by
            have split : (10 : ℚ) ^ (scale' + unused + dropped) =
                10 ^ dropped * 10 ^ unused * 10 ^ scale' := by ring
            rw [split, ← mul_assoc] at same
            rw [mul_right_cancel₀ (by positivity) same]
            ring
          exact_mod_cast digits
      rw [toRat, negative, mantissa, scale, kept, roundDiv_mul_left _ _ (by positivity)]
      congr 1
      rw [div_eq_div_iff (by positivity) (by positivity)]
      have total : d.scale + places =
          d.scale + places - (d.scale + places - maxScale) + (d.scale + places - maxScale) := by omega
      conv_lhs => rw [total]
      push_cast
      ring
    · cases shifted

/-- Moving the point to the right does not round. -/
theorem shiftRight_toRat (shifted : d.shiftRight places = .ok result) :
    result.toRat = d.toRat * 10 ^ places := by
  unfold shiftRight at shifted
  rw [toRat, toRat, signed_mul]
  split at shifted
  · rename_i within
    cases shifted
    obtain ⟨left, total⟩ := Nat.exists_eq_add_of_le within
    congr 1
    dsimp only
    rw [total, Nat.add_sub_cancel_left, pow_add]
    field_simp
  · split at shifted
    · cases shifted
    · rename_i beyond _
      split at shifted
      · rename_i parts
        cases shifted
        obtain ⟨negative, mantissa, scale⟩ := ofParts?_eq_some parts
        rw [negative, mantissa, scale]
        congr 1
        obtain ⟨more, total⟩ := Nat.exists_eq_add_of_le (Nat.le_of_not_le beyond)
        rw [total, Nat.add_sub_cancel_left]
        push_cast
        rw [pow_add]
        field_simp
      · cases shifted

/-- A number whose point can be moved to the right by its decimals is one that a decimal stands for. -/
theorem representable_mul_of_le (d : Decimal) (within : places ≤ d.scale) :
    Representable (d.toRat * 10 ^ places) := by
  refine ⟨{ d with scale := d.scale - places, scale_le := Nat.le_trans (Nat.sub_le _ _) d.scale_le }, ?_⟩
  exact shiftRight_toRat (by rw [shiftRight, if_pos within])

end Shifts

/-! ### Texts -/

section Texts

variable {result : Decimal}

theorem foldl_digits {digits : List Char} (plain : ∀ c ∈ digits, c.isDigit = true) (n : ℕ) :
    digits.foldl (fun n c => n * 10 + (c.toNat - '0'.toNat)) n = appendRow n digits := by
  induction digits generalizing n with
  | nil => rfl
  | cons c rest inductionHypothesis =>
      have isDigit : digit? c = some (c.toNat - '0'.toNat) := by
        rw [digit?, if_pos (plain c List.mem_cons_self)]
      rw [List.foldl_cons, appendRow_of_digit isDigit]
      exact inductionHypothesis (fun c member => plain c (List.mem_cons_of_mem _ member)) _

/-- The characters of an exponent behind its mark are read as the number of places, if that is written and not too
large. -/
theorem readExponent_eq (exponent : Exponent) :
    readExponent ((if exponent.plus then ['+'] else []) ++ exponent.digits) =
      if exponent.digits ≠ [] ∧ exponent.places < 2 ^ 32 then .ok exponent.places else .error .malformedExponent := by
  have behind : (if ((if exponent.plus then ['+'] else []) ++ exponent.digits).head? = some '+' then
      ((if exponent.plus then ['+'] else []) ++ exponent.digits).tail
      else (if exponent.plus then ['+'] else []) ++ exponent.digits) = exponent.digits := by
    cases exponent.plus with
    | true => rfl
    | false =>
        refine if_neg fun first => ?_
        exact absurd (exponent.plain '+' (List.mem_of_mem_head? first)) (by decide)
  have plain : exponent.digits.all Char.isDigit = true := List.all_eq_true.mpr exponent.plain
  unfold readExponent
  rw [behind]
  dsimp only
  rw [foldl_digits exponent.plain, plain, Exponent.places]
  simp only [true_and]

theorem readExponent_eq_ok (exponent : Exponent) {places : ℕ}
    (read : readExponent ((if exponent.plus then ['+'] else []) ++ exponent.digits) = .ok places) :
    places = exponent.places := by
  rw [readExponent_eq] at read
  split at read
  · exact (Except.ok.inj read).symm
  · cases read

/-- A minus sign in front of an exponent is not taken for a part of it. -/
theorem Exponent.ne_minus (exponent : Exponent) (rest : List Char) :
    (if exponent.plus then ['+'] else []) ++ exponent.digits ≠ '-' :: rest := by
  intro same
  have first : '-' ∈ (if exponent.plus then ['+'] else []) ++ exponent.digits := same ▸ List.mem_cons_self
  rcases List.mem_append.mp first with inSign | inDigits
  · split at inSign
    · exact absurd (List.mem_singleton.mp inSign) (by decide)
    · cases inSign
  · exact absurd (exponent.plain '-' inDigits) (by decide)

/-- Where a text is divided that has an exponent. -/
theorem takeWhile_text (numeral : Numeral) (exponent : Exponent) :
    (numeral.front ++ exponent.mark :: exponent.tail).takeWhile (!isExponentMark ·) = numeral.front ∧
      (numeral.front ++ exponent.mark :: exponent.tail).dropWhile (!isExponentMark ·) =
        exponent.mark :: exponent.tail := by
  have passes : ∀ c ∈ numeral.front, (!isExponentMark c) = true := fun c member => by
    rw [not_isExponentMark_of_mem_front numeral c member]
    rfl
  rw [List.takeWhile_append_of_pos passes, List.dropWhile_append_of_pos passes]
  simp [exponent.isMark]

/-- A number with an exponent is read in front of it first, and then its point is moved. -/
theorem parseScientific_eq_ok (numeral : Numeral) (exponent : Exponent)
    (read : parseScientific (numeral.front ++ exponent.mark :: exponent.tail) = .ok result) :
    ∃ base, parsePlain numeral.front = .ok base ∧
      if exponent.minus then base.shiftLeft exponent.places = .ok result
      else base.shiftRight exponent.places = .ok result := by
  obtain ⟨front, back⟩ := takeWhile_text numeral exponent
  unfold parseScientific at read
  rw [front, back] at read
  cases plain : parsePlain numeral.front with
  | error e =>
      rw [plain] at read
      cases read
  | ok base =>
      rw [plain] at read
      refine ⟨base, rfl, ?_⟩
      have unsigned := exponent.ne_minus
      cases minus : exponent.minus with
      | true =>
          simp only [Exponent.tail, minus, List.tail_cons, if_true, List.cons_append, List.nil_append, bind,
            Except.bind] at read
          split at read
          · cases read
          · rename_i places counted
            rw [← readExponent_eq_ok exponent counted]
            exact read
      | false =>
          simp only [Exponent.tail, minus, List.tail_cons, List.nil_append, bind, Except.bind,
            Bool.false_eq_true, if_false] at read ⊢
          split at read
          · cases read
          · rename_i places counted
            rw [← readExponent_eq_ok exponent counted]
            exact read

/-- A text is read as a number without an exponent, or else, if there is an exponent mark in it, as one
with. -/
theorem parse_eq_ok {text : String} (read : parse text = .ok result) :
    parsePlain text.toList = .ok result ∨
      text.toList.any isExponentMark = true ∧ parseScientific text.toList = .ok result := by
  unfold parse at read
  dsimp only at read
  split at read
  · rename_i done
    cases read
    exact .inl done
  · split at read
    · rename_i marked
      exact .inr ⟨marked, read⟩
    · cases read

/-- Without an exponent, what is read is the number that is written exactly if a decimal stands for it. -/
private theorem toRat_eq_base_iff {numeral : Numeral} (plain : parsePlain numeral.front = .ok result) :
    result.toRat = numeral.base ↔ Representable numeral.base ∧ Representable numeral.base :=
  ⟨fun same => ⟨⟨result, same⟩, ⟨result, same⟩⟩, fun both => parsePlain_toRat numeral plain both.1⟩

/-- With an exponent, decimals have to stand for the number in front of it and for the number as it is with its
point moved. -/
private theorem toRat_eq_shift_iff {numeral : Numeral} {exponent : Exponent}
    (read : parseScientific (numeral.front ++ exponent.mark :: exponent.tail) = .ok result) :
    result.toRat = exponent.shift numeral.base ↔
      Representable numeral.base ∧ Representable (exponent.shift numeral.base) := by
  obtain ⟨base, plain, shifted⟩ := parseScientific_eq_ok numeral exponent read
  have inFront := parsePlain_toRat numeral plain
  have positive : (10 : ℚ) ^ exponent.places ≠ 0 := by positivity
  unfold Exponent.shift
  cases minus : exponent.minus with
  | true =>
      rw [minus, if_pos rfl] at shifted
      rw [if_pos rfl]
      obtain ⟨enough, rounds⟩ := shiftLeft_toRat shifted
      constructor
      · intro same
        have back := representable_mul_of_le result enough
        rw [same, div_mul_cancel₀ _ positive] at back
        exact ⟨back, ⟨result, same⟩⟩
      · rintro ⟨front, whole⟩
        rw [← inFront front] at whole ⊢
        exact rounds whole
  | false =>
      rw [minus, if_neg Bool.false_ne_true] at shifted
      rw [if_neg Bool.false_ne_true]
      have moved := shiftRight_toRat shifted
      constructor
      · intro same
        exact ⟨⟨base, mul_right_cancel₀ positive (moved.symm.trans same)⟩, ⟨result, same⟩⟩
      · rintro ⟨front, _⟩
        rw [moved, inFront front]

/-- What is read is the number that is written exactly if decimals stand for this number and for the one in
front of its exponent. -/
theorem toRat_eq_value_iff {text : String} {numeral : Numeral} (spelled : text.toList = numeral.text)
    (read : parse text = .ok result) :
    result.toRat = numeral.value ↔ Representable numeral.base ∧ Representable numeral.value := by
  cases exponent? : numeral.exponent with
  | none =>
      have text' : numeral.text = numeral.front := by simp [Numeral.text, exponent?]
      have value : numeral.value = numeral.base := by simp [Numeral.value, exponent?]
      rw [value]
      rcases parse_eq_ok read with plain | ⟨marked, _⟩
      · exact toRat_eq_base_iff (by rwa [spelled, text'] at plain)
      · obtain ⟨c, member, isMark⟩ := List.any_eq_true.mp marked
        rw [spelled, text'] at member
        rw [not_isExponentMark_of_mem_front numeral c member] at isMark
        cases isMark
  | some exponent =>
      have text' : numeral.text = numeral.front ++ exponent.mark :: exponent.tail := by
        simp [Numeral.text, exponent?]
      have value : numeral.value = exponent.shift numeral.base := by simp [Numeral.value, exponent?]
      rw [value]
      rcases parse_eq_ok read with plain | ⟨_, scientific⟩
      · have unmarked := not_isExponentMark_of_parsePlain plain exponent.mark (by simp [spelled, text'])
        rw [exponent.isMark] at unmarked
        cases unmarked
      · exact toRat_eq_shift_iff (by rwa [spelled, text'] at scientific)

end Texts

end Passbook.Decimal

import Mathlib.Data.List.Forall2
import Passbook.Text.Utf8
/-!
# The bytes of a text

The bytes that encode a text are read as its characters, and as nothing else: the first byte of a character says
in which ranges the others lie and what it contributes to the code point, and so do the others, six bits each.
-/

namespace Passbook.Text

variable {byte code : ℕ} {ranges : List (ℕ × ℕ)} {tail : List ℕ}

def LiesIn (range : ℕ × ℕ) (byte : ℕ) : Prop := range.1 ≤ byte ∧ byte ≤ range.2

/-- The code point to which the bytes that continue a character contribute. -/
def codeFrom (code : ℕ) (tail : List ℕ) : ℕ := tail.foldl (fun code byte => code * 64 + byte % 64) code

/-- The bytes that an open character waits for complete it. -/
theorem utf8Pieces_tail {next : ℕ × ℕ} {later : List (ℕ × ℕ)} (fits : List.Forall₂ LiesIn (next :: later) tail)
    (index taken code : ℕ) (rest : List ℕ) :
    utf8Pieces index (some ⟨taken, code, next, later⟩) (tail ++ rest) =
      .char (Char.ofNat (codeFrom code tail)) :: utf8Pieces (index + tail.length) none rest := by
  induction later generalizing next tail index taken code with
  | nil =>
      obtain ⟨byte, tail, inside, none, rfl⟩ := List.forall₂_cons_left_iff.mp fits
      cases none
      rw [List.singleton_append, utf8Pieces, utf8Step, if_pos (And.intro inside.1 inside.2)]
      rfl
  | cons second later inductionHypothesis =>
      obtain ⟨byte, tail, inside, others, rfl⟩ := List.forall₂_cons_left_iff.mp fits
      rw [List.cons_append, utf8Pieces, utf8Step, if_pos (And.intro inside.1 inside.2)]
      dsimp only
      rw [List.nil_append, inductionHypothesis others, List.length_cons, codeFrom, codeFrom, List.foldl_cons,
        Nat.add_right_comm, Nat.add_assoc]

/-- A first byte and the bytes that it asks for are a character. -/
theorem utf8Pieces_lead (lead : utf8Lead? byte = some (ranges, code)) (fits : List.Forall₂ LiesIn ranges tail)
    (index : ℕ) (rest : List ℕ) :
    utf8Pieces index none (byte :: tail ++ rest) =
      .char (Char.ofNat (codeFrom code tail)) :: utf8Pieces (index + (byte :: tail).length) none rest := by
  rw [List.cons_append, utf8Pieces, utf8Step, utf8Begin, lead]
  cases ranges with
  | nil =>
      cases fits
      rfl
  | cons next later =>
      dsimp only
      rw [List.nil_append, utf8Pieces_tail fits, List.length_cons, Nat.add_right_comm, Nat.add_assoc]

/-! ### The bytes of a character -/

private theorem utf8Lead?_two (least : 0xC2 ≤ byte) (greatest : byte < 0xE0) :
    utf8Lead? byte = some ([tailRange], byte - 0xC0) := by
  rw [utf8Lead?, if_neg (by omega), if_neg (by omega), if_pos greatest]

private theorem utf8Lead?_three (least : 0xE0 < byte) (greatest : byte < 0xF0) (notLast : byte ≠ 0xED) :
    utf8Lead? byte = some ([tailRange, tailRange], byte - 0xE0) := by
  rw [utf8Lead?, if_neg (by omega), if_neg (by omega), if_neg (by omega), if_neg (by omega), if_neg notLast,
    if_pos greatest]

private theorem utf8Lead?_four (least : 0xF0 < byte) (greatest : byte < 0xF4) :
    utf8Lead? byte = some ([tailRange, tailRange, tailRange], byte - 0xF0) := by
  rw [utf8Lead?, if_neg (by omega), if_neg (by omega), if_neg (by omega), if_neg (by omega), if_neg (by omega),
    if_neg (by omega), if_neg (by omega), if_pos greatest]

/-- Bytes are those of a character: a first byte, and others in the ranges and with the code point that it asks for. -/
def Spell (bytes : List ℕ) (n : ℕ) : Prop :=
  ∃ byte tail ranges code, bytes = byte :: tail ∧ utf8Lead? byte = some (ranges, code) ∧
    List.Forall₂ LiesIn ranges tail ∧ codeFrom code tail = n

section Spelling

variable {n : ℕ}

private theorem liesIn_tailRange (n : ℕ) : LiesIn tailRange (n % 0x40 + 0x80) :=
  ⟨by simp only [tailRange]; omega, by simp only [tailRange]; omega⟩

private theorem spell_one (greatest : n ≤ 0x7F) : Spell [n] n :=
  ⟨n, [], [], n, rfl, by rw [utf8Lead?, if_pos (by omega)], .nil, rfl⟩

private theorem spell_two (least : 0x7F < n) (greatest : n ≤ 0x7FF) :
    Spell [n / 64 % 0x20 + 0xC0, n % 0x40 + 0x80] n := by
  refine ⟨_, _, _, _, rfl, utf8Lead?_two (by omega) (by omega), .cons (liesIn_tailRange n) .nil, ?_⟩
  simp only [codeFrom, List.foldl_cons, List.foldl_nil]
  omega

/-- Of the surrogates there are no bytes. -/
private theorem spell_three (least : 0x7FF < n) (greatest : n ≤ 0xFFFF) (valid : n < 0xD800 ∨ 0xDFFF < n) :
    Spell [n / 4096 % 0x10 + 0xE0, n / 64 % 0x40 + 0x80, n % 0x40 + 0x80] n := by
  have code (start : ℕ) (first : start = n / 4096) :
      codeFrom start [n / 64 % 0x40 + 0x80, n % 0x40 + 0x80] = n := by
    simp only [codeFrom, List.foldl_cons, List.foldl_nil]
    omega
  rcases Nat.eq_zero_or_pos (n / 4096) with first | first
  · have second : LiesIn (0xA0, 0xBF) (n / 64 % 0x40 + 0x80) := ⟨by dsimp only; omega, by dsimp only; omega⟩
    refine ⟨_, _, _, _, rfl, ?_, .cons second (.cons (liesIn_tailRange n) .nil), code 0 first.symm⟩
    rw [first]
    rfl
  by_cases last : n / 4096 = 0xD
  · have second : LiesIn (0x80, 0x9F) (n / 64 % 0x40 + 0x80) := ⟨by dsimp only; omega, by dsimp only; omega⟩
    refine ⟨_, _, _, _, rfl, ?_, .cons second (.cons (liesIn_tailRange n) .nil), code 0xD last.symm⟩
    rw [last]
    rfl
  · refine ⟨_, _, _, _, rfl, utf8Lead?_three (by omega) (by omega) (by omega),
      .cons (liesIn_tailRange _) (.cons (liesIn_tailRange n) .nil), code _ (by omega)⟩

private theorem spell_four (least : 0xFFFF < n) (greatest : n < 0x110000) :
    Spell [n / 262144 % 0x08 + 0xF0, n / 4096 % 0x40 + 0x80, n / 64 % 0x40 + 0x80, n % 0x40 + 0x80] n := by
  have code (start : ℕ) (first : start = n / 262144) :
      codeFrom start [n / 4096 % 0x40 + 0x80, n / 64 % 0x40 + 0x80, n % 0x40 + 0x80] = n := by
    simp only [codeFrom, List.foldl_cons, List.foldl_nil]
    omega
  have others : List.Forall₂ LiesIn [tailRange, tailRange] [n / 64 % 0x40 + 0x80, n % 0x40 + 0x80] :=
    .cons (liesIn_tailRange _) (.cons (liesIn_tailRange n) .nil)
  rcases Nat.eq_zero_or_pos (n / 262144) with first | first
  · have second : LiesIn (0x90, 0xBF) (n / 4096 % 0x40 + 0x80) := ⟨by dsimp only; omega, by dsimp only; omega⟩
    refine ⟨_, _, _, _, rfl, ?_, .cons second others, code 0 first.symm⟩
    rw [first]
    rfl
  by_cases last : n / 262144 = 4
  · have second : LiesIn (0x80, 0x8F) (n / 4096 % 0x40 + 0x80) := ⟨by dsimp only; omega, by dsimp only; omega⟩
    refine ⟨_, _, _, _, rfl, ?_, .cons second others, code 4 last.symm⟩
    rw [last]
    rfl
  · exact ⟨_, _, _, _, rfl, utf8Lead?_four (by omega) (by omega), .cons (liesIn_tailRange _) others,
      code _ (by omega)⟩

/-- The bytes of a character are a first byte and the bytes that it asks for. -/
theorem spell_utf8EncodeChar (c : Char) : Spell ((String.utf8EncodeChar c).map (·.toNat)) c.toNat := by
  have valid : c.toNat < 0xD800 ∨ 0xDFFF < c.toNat ∧ c.toNat < 0x110000 := c.valid
  have byte {m : ℕ} (small : m < 256) : (UInt8.ofNat m).toNat = m := UInt8.toNat_ofNat_of_lt' small
  have written : String.utf8EncodeChar c =
    let n := c.toNat
    if n ≤ 0x7F then [.ofNat n]
    else if n ≤ 0x7FF then [.ofNat (n / 64 % 0x20 + 0xC0), .ofNat (n % 0x40 + 0x80)]
    else if n ≤ 0xFFFF then
      [.ofNat (n / 4096 % 0x10 + 0xE0), .ofNat (n / 64 % 0x40 + 0x80), .ofNat (n % 0x40 + 0x80)]
    else
      [.ofNat (n / 262144 % 0x08 + 0xF0), .ofNat (n / 4096 % 0x40 + 0x80), .ofNat (n / 64 % 0x40 + 0x80),
        .ofNat (n % 0x40 + 0x80)] := rfl
  rw [written]
  dsimp only
  generalize c.toNat = n at valid
  split
  · rename_i one
    simpa only [List.map_cons, List.map_nil, byte (show n < 256 by omega)] using spell_one one
  split
  · rename_i one two
    simpa only [List.map_cons, List.map_nil, byte (show n / 64 % 0x20 + 0xC0 < 256 by omega),
      byte (show n % 0x40 + 0x80 < 256 by omega)] using spell_two (by omega) two
  have third : (UInt8.ofNat (n / 64 % 0x40 + 0x80)).toNat = n / 64 % 0x40 + 0x80 := byte (by omega)
  have last : (UInt8.ofNat (n % 0x40 + 0x80)).toNat = n % 0x40 + 0x80 := byte (by omega)
  split
  · rename_i three
    simpa only [List.map_cons, List.map_nil, byte (show n / 4096 % 0x10 + 0xE0 < 256 by omega), third, last] using
      spell_three (by omega) three (by omega)
  · simpa only [List.map_cons, List.map_nil, byte (show n / 262144 % 0x08 + 0xF0 < 256 by omega),
      byte (show n / 4096 % 0x40 + 0x80 < 256 by omega), third, last] using spell_four (by omega) (by omega)

end Spelling

/-! ### The bytes of a text -/

/-- The bytes of characters are read as these characters. -/
theorem utf8Pieces_encode (cs : List Char) (index : ℕ) :
    utf8Pieces index none ((cs.flatMap String.utf8EncodeChar).map (·.toNat)) = cs.map .char := by
  induction cs generalizing index with
  | nil => rfl
  | cons c cs inductionHypothesis =>
      obtain ⟨byte, tail, ranges, code, bytes, lead, fits, value⟩ := spell_utf8EncodeChar c
      rw [List.flatMap_cons, List.map_append, bytes, utf8Pieces_lead lead fits, value, Char.ofNat_toNat,
        inductionHypothesis, List.map_cons]

/-- The bytes of a text are those of its characters. -/
theorem toUTF8_eq_flatMap (text : String) : text.toUTF8.data.toList = text.toList.flatMap String.utf8EncodeChar := by
  conv_lhs => rw [← String.ofList_toList (s := text)]
  exact List.toList_data_toByteArray

/-- The bytes of a text are read as its characters. -/
theorem utf8Signs_toUTF8 (text : String) : utf8Signs text.toUTF8.data.toList = text.toList.map some := by
  rw [utf8Signs, toUTF8_eq_flatMap, utf8Pieces_encode, List.map_map]
  rfl

end Passbook.Text

import Mathlib.Algebra.GroupWithZero.Nat
import Mathlib.Data.String.Basic
import Passbook.Uuid.Parse
/-!
# Identifiers that are written

What is written of an identifier is read as this identifier: its hyphens stand where they are looked for, and its
digits make up its number.
-/

namespace Passbook.Uuid

-- Powers are those of natural numbers and integers, whatever else is in scope.
attribute [local instance (2000)] instPowNat

/-! ### Digits -/

section Digits

variable {digit width n : ℕ} {c : Char}

/-- What is to be known of the sixteen digits. -/
theorem digitChar_spec (small : digit < 16) :
    hexValue? (digitChar digit) = some digit ∧ digitChar digit ≠ '-' ∧ (digitChar digit).toNat < 0x80 := by
  have all : ∀ digit < 16, hexValue? (digitChar digit) = some digit ∧ digitChar digit ≠ '-' ∧
      (digitChar digit).toNat < 0x80 := by decide +kernel
  exact all digit small

theorem length_hexDigits (width n : ℕ) : (hexDigits width n).length = width := by
  induction width generalizing n with
  | zero => rfl
  | succ width inductionHypothesis => simp [hexDigits, inductionHypothesis]

theorem lt_of_mem_hexDigits (member : digit ∈ hexDigits width n) : digit < 16 := by
  induction width generalizing n with
  | zero => cases member
  | succ width inductionHypothesis =>
      rcases List.mem_append.mp member with high | last
      · exact inductionHypothesis high
      · rw [List.mem_singleton.mp last]
        exact Nat.mod_lt n (by decide)

/-- The lowest digits of a number make up this number as far as they reach. -/
theorem foldl_hexDigits (width n : ℕ) :
    (hexDigits width n).foldl (fun n digit => n * 16 + digit) 0 = n % 16 ^ width := by
  induction width generalizing n with
  | zero => simp [hexDigits, Nat.mod_one]
  | succ width inductionHypothesis =>
      rw [hexDigits, List.foldl_append, inductionHypothesis, Nat.pow_succ', Nat.mod_mul]
      simp only [List.foldl_cons, List.foldl_nil]
      omega

def digitChars (u : Uuid) : List Char := (hexDigits digitCount u.value).map digitChar

theorem length_digitChars (u : Uuid) : u.digitChars.length = digitCount := by
  rw [digitChars, List.length_map, length_hexDigits]

theorem of_mem_digitChars {u : Uuid} (member : c ∈ u.digitChars) : c ≠ '-' ∧ c.toNat < 0x80 := by
  obtain ⟨digit, known, rfl⟩ := List.mem_map.mp member
  exact (digitChar_spec (lt_of_mem_hexDigits known)).2

/-- The digits are read as the identifier. -/
theorem ofDigits?_digitChars (u : Uuid) : ofDigits? u.digitChars = some u := by
  have values : ∀ digits : List ℕ, (∀ digit ∈ digits, digit < 16) →
      (digits.map digitChar).mapM hexValue? = some digits := by
    intro digits small
    induction digits with
    | nil => rfl
    | cons digit digits inductionHypothesis =>
        rw [List.map_cons, List.mapM_cons, (digitChar_spec (small digit List.mem_cons_self)).1,
          inductionHypothesis fun digit member => small digit (List.mem_cons_of_mem _ member)]
        rfl
  have bound : u.value < 16 ^ digitCount := u.value_lt
  rw [ofDigits?, if_pos u.length_digitChars, digitChars, values _ fun _ => lt_of_mem_hexDigits, Option.map_some,
    foldl_hexDigits, Nat.mod_eq_of_lt bound]
  have same : ofNat u.value = u := by
    obtain ⟨value, small⟩ := u
    simpa [ofNat] using Nat.mod_eq_of_lt small
  rw [same]

end Digits

/-! ### Groups -/

section Groups

variable {cs : List Char} {lengths : List ℕ}

theorem flatten_splitGroups (cs : List Char) (lengths : List ℕ) :
    (splitGroups cs lengths).flatten = cs.take lengths.sum := by
  induction lengths generalizing cs with
  | nil => rfl
  | cons length lengths inductionHypothesis =>
      rw [splitGroups, List.flatten_cons, inductionHypothesis, List.sum_cons, List.take_add]

theorem filter_intercalate (groups : List (List Char)) :
    (List.intercalate ['-'] groups).filter (· ≠ '-') = groups.flatten.filter (· ≠ '-') := by
  induction groups with
  | nil => rfl
  | cons group groups inductionHypothesis =>
      cases groups with
      | nil => simp
      | cons next groups =>
          rw [List.intercalate_cons_cons, List.filter_append, inductionHypothesis, List.filter_append,
            List.flatten_cons, List.filter_append]
          simp

theorem length_intercalate (groups : List (List Char)) :
    (List.intercalate ['-'] groups).length = groups.flatten.length + (groups.length - 1) := by
  induction groups with
  | nil => rfl
  | cons group groups inductionHypothesis =>
      cases groups with
      | nil => simp
      | cons next groups =>
          rw [List.intercalate_cons_cons, List.length_append, inductionHypothesis]
          simp
          omega

theorem byteLength_eq_length (ascii : ∀ c ∈ cs, c.toNat < 0x80) : byteLength cs = cs.length := by
  induction cs with
  | nil => rfl
  | cons c cs inductionHypothesis =>
      have one : c.utf8Size = 1 := Char.utf8Size_eq_one_iff.mpr (by
        have small : c.toNat < 0x80 := ascii c List.mem_cons_self
        exact Nat.le_of_lt_succ small)
      have others := inductionHypothesis fun c member => ascii c (List.mem_cons_of_mem _ member)
      unfold byteLength at others ⊢
      rw [String.ofList_cons, String.utf8ByteSize_append, String.utf8ByteSize_singleton, one, others, List.length_cons,
        Nat.add_comm]

end Groups

/-- What is written of an identifier is read as this identifier. -/
theorem parse_toText (u : Uuid) : parse u.toText = .ok u := by
  let groups := splitGroups u.digitChars groupLengths
  have text : u.toText.toList = List.intercalate ['-'] groups := String.toList_ofList
  have digits : groups.flatten = u.digitChars := by
    rw [flatten_splitGroups, List.take_of_length_le]
    rw [length_digitChars]
    decide
  have noHyphens : u.digitChars.filter (· ≠ '-') = u.digitChars :=
    List.filter_eq_self.mpr fun c member => decide_eq_true (of_mem_digitChars member).1
  have regrouped : splitGroups (u.toText.toList.filter (· ≠ '-')) groupLengths = groups := by
    rw [text, filter_intercalate, digits, noHyphens]
  have ascii : ∀ c ∈ u.toText.toList, c.toNat < 0x80 := by
    intro c member
    by_cases hyphen : c = '-'
    · rw [hyphen]
      decide
    · have kept : c ∈ u.toText.toList.filter (· ≠ '-') := List.mem_filter.mpr ⟨member, decide_eq_true hyphen⟩
      rw [text, filter_intercalate, digits, noHyphens] at kept
      exact (of_mem_digitChars kept).2
  have length : byteLength u.toText.toList = 36 := by
    rw [byteLength_eq_length ascii, text, length_intercalate, digits, length_digitChars]
    rfl
  have read : ofHyphenated? u.toText.toList = some u := by
    unfold ofHyphenated?
    rw [regrouped, if_pos text, digits, ofDigits?_digitChars]
  unfold parse hyphenatedPart?
  simp only [length, read]

end Passbook.Uuid

import Passbook.Json.Decode
import Passbook.Json.Value
import Passbook.Proofs.Json.Literals
/-!
# Values that are written

The text of a value is read as the tree of this value, with nothing left over.  The way there has two parts, as the
reader has: the signs are the tokens of the value one by one, and of its tokens the tree is built up again.
-/

namespace Passbook.Json

-- Powers are those of natural numbers and integers, whatever else is in scope.
attribute [local instance (2000)] instPowNat

open Decimal (Plain appendRow)

/-! ### Strings -/

/-- What a character that is written is read as: control characters without a letter of their own come back as
units. -/
def pieceOf (c : Char) : Piece :=
  if c.toNat < 0x20 ∧ c ∉ ['\n', '\r', '\t', '\x08', '\x0c'] then .unit c.toNat else .char c

section Strings

variable {c : Char} {rest : List Sign}

theorem hexValue?_hexDigit {n : ℕ} (small : n < 16) : hexValue? (Value.hexDigit n) = some n := by
  have all : ∀ n < 16, hexValue? (Value.hexDigit n) = some n := by decide +kernel
  exact all n small

/-- How a character is written: with the letter that stands for it, as a unit of four digits, or as it is. -/
inductive Escaped (c : Char) : List Char → Prop where
  | letter (e : Char) (stands : escapes.lookup e = some c) (noUnit : e ≠ 'u') (piece : pieceOf c = .char c) :
      Escaped c ['\\', e]
  | unit (control : c.toNat < 0x20) (piece : pieceOf c = .unit c.toNat) :
      Escaped c ['\\', 'u', '0', '0', Value.hexDigit (c.toNat / 16), Value.hexDigit (c.toNat % 16)]
  | itself (visible : ¬(c.toNat < 0x20 ∨ c = '\\')) (noQuote : c ≠ '"') (piece : pieceOf c = .char c) : Escaped c [c]

theorem escaped (c : Char) : Escaped c (Value.escape c) := by
  by_cases lettered : c ∈ ['"', '\\', '\n', '\r', '\t', '\x08', '\x0c']
  · simp only [List.mem_cons, List.not_mem_nil, or_false] at lettered
    rcases lettered with rfl | rfl | rfl | rfl | rfl | rfl | rfl
    all_goals exact .letter _ rfl (by decide) rfl
  · simp only [List.mem_cons, List.not_mem_nil, or_false, not_or] at lettered
    obtain ⟨noQuote, noEscape, noLine, noReturn, noTab, noBack, noForm⟩ := lettered
    simp only [Value.escape, noQuote, noEscape, noLine, noReturn, noTab, noBack, noForm, if_false]
    split
    · rename_i control
      exact .unit control (if_pos ⟨control, by simp [noLine, noReturn, noTab, noBack, noForm]⟩)
    · rename_i visible
      exact .itself (by simp [visible, noEscape]) noQuote (if_neg fun both => visible both.1)

/-- A control character is written as a unit of four digits. -/
private theorem readPieces_control (control : c.toNat < 0x20) :
    readPieces (some '\\' :: some 'u' :: some '0' :: some '0' :: some (Value.hexDigit (c.toNat / 16)) ::
        some (Value.hexDigit (c.toNat % 16)) :: rest) =
      (readPieces rest).map fun (pieces, rest) => (.unit c.toNat :: pieces, rest) := by
  have high : hexValue? (Value.hexDigit (c.toNat / 16)) = some (c.toNat / 16) := hexValue?_hexDigit (by omega)
  have low : hexValue? (Value.hexDigit (c.toNat % 16)) = some (c.toNat % 16) := hexValue?_hexDigit (by omega)
  have zero : hexValue? '0' = some 0 := rfl
  have digits : [0, 0, c.toNat / 16, c.toNat % 16].foldl (fun n digit => n * 16 + digit) 0 = c.toNat := by
    simp only [List.foldl_cons, List.foldl_nil]
    omega
  rw [readPieces]
  simp only [List.mapM_cons, List.mapM_nil, zero, high, low, Option.pure_def, Option.bind_eq_bind, Option.bind_some,
    digits]
  cases readPieces rest <;> rfl

/-- A character is read as its piece. -/
theorem readPieces_escape (c : Char) (rest : List Sign) :
    readPieces ((Value.escape c).map some ++ rest) =
      (readPieces rest).map fun (pieces, rest) => (pieceOf c :: pieces, rest) := by
  have written := escaped c
  generalize Value.escape c = text at written
  cases written with
  | letter e stands noUnit piece =>
      rw [piece, List.map_cons, List.map_singleton, List.cons_append, List.singleton_append, readPieces, stands]
      · cases readPieces rest <;> rfl
      · intro _ _ _ _ _ _ unit
        exact noUnit unit
  | unit control piece =>
      rw [piece]
      exact readPieces_control control
  | itself visible noQuote piece =>
      rw [piece, List.map_singleton, List.singleton_append, readPieces, if_neg visible]
      · cases readPieces rest <;> rfl
      all_goals simp_all

/-- A string in quotes is read as its pieces. -/
theorem readPieces_quoted (cs : List Char) (rest : List Sign) :
    readPieces ((cs.flatMap Value.escape).map some ++ some '"' :: rest) = some (cs.map pieceOf, rest) := by
  induction cs with
  | nil => rfl
  | cons c cs inductionHypothesis =>
      rw [List.flatMap_cons, List.map_append, List.append_assoc, readPieces_escape, inductionHypothesis]
      rfl

private theorem joinPieces_unit (control : c.toNat < 0x20) (pieces : List Piece) :
    joinPieces (.unit c.toNat :: pieces) = (joinPieces pieces).map (c :: ·) := by
  have noHigh : isHighSurrogate c.toNat = false := by
    simp only [isHighSurrogate, Bool.and_eq_false_iff, decide_eq_false_iff_not]
    omega
  have noLow : isLowSurrogate c.toNat = false := by
    simp only [isLowSurrogate, Bool.and_eq_false_iff, decide_eq_false_iff_not]
    omega
  match pieces with
  | [] | .char _ :: _ | .unit _ :: _ | .stray :: _ => simp [joinPieces, noHigh, noLow]

/-- The pieces of a string are put together to the string. -/
theorem joinPieces_map_pieceOf (cs : List Char) : joinPieces (cs.map pieceOf) = some cs := by
  induction cs with
  | nil => rfl
  | cons c cs inductionHypothesis =>
      rw [List.map_cons, pieceOf]
      split
      · rename_i control
        rw [joinPieces_unit control.1, inductionHypothesis]
        rfl
      · rw [joinPieces, inductionHypothesis]
        rfl

/-- What stands in quotes is one token. -/
theorem readToken_quote (s : String) (rest : List Sign) :
    readToken ((Value.quote s).map some ++ rest) = some (.string (some s), rest) := by
  have text : (Value.quote s).map some ++ rest =
      some '"' :: ((s.toList.flatMap Value.escape).map some ++ some '"' :: rest) := by
    simp [Value.quote]
  rw [text, readToken, readPieces_quoted, Option.map_some]
  simp only [joinPieces_map_pieceOf, Option.map_some, String.ofList_toList]

end Strings

/-! ### Integers -/

def NumberLiteral.ofInt (n : ℤ) : NumberLiteral := ⟨n < 0, Nat.toDigits 10 n.natAbs, [], none⟩

/-- A number does not go on with what comes next. -/
def Stops (rest : List Sign) : Prop := ∀ sign ∈ rest.head?, sign = ',' ∨ sign = ']' ∨ sign = '\x7d'

section Integers

variable {rest : List Sign} {digits : List Char}

theorem stops_comma : Stops (some ',' :: rest) := by
  rintro _ ⟨⟩
  exact .inl rfl

theorem stops_closeBracket : Stops (some ']' :: rest) := by
  rintro _ ⟨⟩
  exact .inr (.inl rfl)

theorem stops_closeBrace : Stops (some '\x7d' :: rest) := by
  rintro _ ⟨⟩
  exact .inr (.inr rfl)

theorem spanDigits_append (plain : Plain digits) (stops : Stops rest) :
    spanDigits (digits.map some ++ rest) = (digits, rest) := by
  induction digits with
  | nil =>
      cases rest with
      | nil => rfl
      | cons sign rest => rcases stops sign rfl with rfl | rfl | rfl <;> rfl
  | cons c digits inductionHypothesis =>
      rw [List.map_cons, List.cons_append, spanDigits, if_pos (plain c List.mem_cons_self),
        inductionHypothesis plain.tail]

/-- No digit but one that stands alone is a zero in front. -/
theorem toDigits_ne_zero_cons (n : ℕ) (c : Char) (digits : List Char) : Nat.toDigits 10 n ≠ '0' :: c :: digits := by
  intro leading
  have value := Decimal.appendRow_toDigits n
  have zero : Decimal.digit? '0' = some 0 := rfl
  have plain : Plain (c :: digits) := (leading ▸ Decimal.plain_toDigits n : Plain ('0' :: c :: digits)).tail
  rw [leading, Decimal.appendRow_of_digit zero] at value
  have small : n < 10 ^ (c :: digits).length := by
    rw [← plain.digitCount_eq, ← value]
    exact Decimal.appendRow_lt (c :: digits)
  have short := (Nat.length_toDigits_le_iff (by decide) (by simp)).mpr small
  rw [leading] at short
  simp at short

theorem readWhole_toDigits (n : ℕ) (stops : Stops rest) :
    readWhole ((Nat.toDigits 10 n).map some ++ rest) = some (Nat.toDigits 10 n, rest) := by
  have something : Nat.toDigits 10 n ≠ [] := Nat.toDigits_ne_nil
  have leading := toDigits_ne_zero_cons n
  rw [readWhole, spanDigits_append (Decimal.plain_toDigits n) stops]
  split <;> simp_all

theorem readFraction_of_stops (stops : Stops rest) : readFraction rest = some ([], rest) := by
  unfold readFraction
  split
  · rcases stops (some '.') rfl with point | point | point <;> cases point
  · rfl

theorem readExponent_of_stops (stops : Stops rest) : readExponent rest = some (none, rest) := by
  cases rest with
  | nil => rfl
  | cons sign rest => rcases stops sign rfl with rfl | rfl | rfl <;> rfl

/-- An integer is read as its literal. -/
theorem readNumber_integer (n : ℤ) (stops : Stops rest) :
    readNumber ((Value.integerChars n).map some ++ rest) = some (NumberLiteral.ofInt n, rest) := by
  have unsigned : readNumber ((Nat.toDigits 10 n.natAbs).map some ++ rest) =
      some (⟨false, Nat.toDigits 10 n.natAbs, [], none⟩, rest) := by
    obtain ⟨c, digits, eq⟩ := List.exists_cons_of_ne_nil (Nat.toDigits_ne_nil (b := 10) (n := n.natAbs))
    have isDigit : c.isDigit = true := Decimal.plain_toDigits n.natAbs c (eq ▸ List.mem_cons_self)
    have noSign : ∀ more, some c :: (digits.map some ++ rest) ≠ some '-' :: more := by
      rintro more ⟨⟩
      cases isDigit
    have whole := readWhole_toDigits n.natAbs stops
    unfold readNumber
    rw [eq, List.map_cons, List.cons_append] at whole ⊢
    split
    rename_i begins
    split at begins
    · rename_i same
      exact absurd same (noSign _)
    · cases begins
      simp [whole, readFraction_of_stops stops, readExponent_of_stops stops]
  unfold Value.integerChars NumberLiteral.ofInt
  split
  · rename_i negative
    rw [List.map_cons, List.cons_append, readNumber]
    simp [readWhole_toDigits n.natAbs stops, readFraction_of_stops stops, readExponent_of_stops stops, negative]
  · rename_i natural
    simp [unsigned, natural]

/-- An integer begins with its sign or with a digit. -/
theorem integerChars_eq_cons (n : ℤ) :
    ∃ c digits, Value.integerChars n = c :: digits ∧ (c = '-' ∨ c.isDigit = true) := by
  unfold Value.integerChars
  split
  · exact ⟨'-', _, rfl, .inl rfl⟩
  · obtain ⟨c, digits, eq⟩ := List.exists_cons_of_ne_nil (Nat.toDigits_ne_nil (b := 10) (n := n.natAbs))
    exact ⟨c, digits, eq, .inr (Decimal.plain_toDigits n.natAbs c (eq ▸ List.mem_cons_self))⟩

/-- An integer is one token. -/
theorem readToken_integer (n : ℤ) (stops : Stops rest) :
    readToken ((Value.integerChars n).map some ++ rest) = some (.number (.ofInt n), rest) := by
  have number := readNumber_integer n stops
  obtain ⟨c, digits, eq, mark⟩ := integerChars_eq_cons n
  rw [eq, List.map_cons, List.cons_append] at number ⊢
  unfold readToken
  split
  all_goals first
    | rw [number, Option.map_some]
    | rename_i same
      obtain ⟨⟨⟩, -⟩ := List.cons.inj same
      exact absurd mark (by decide)

/-- The literal of an integer of 64 bits has this integer for its value. -/
theorem value?_ofInt {n : ℤ} (least : -2 ^ 63 ≤ n) (greatest : n < 2 ^ 64) :
    (NumberLiteral.ofInt n).value? = some (.integer n) := by
  have digits := Decimal.appendRow_toDigits n.natAbs
  have gathered : NumberLiteral.gather (Nat.toDigits 10 n.natAbs) 0 = (n.natAbs, []) := by
    have few : Decimal.appendRow 0 (Nat.toDigits 10 n.natAbs) < NumberLiteral.significandBound := by
      rw [digits, NumberLiteral.significandBound]
      omega
    rw [NumberLiteral.gather_eq (Decimal.plain_toDigits _) few, digits]
  unfold NumberLiteral.value? NumberLiteral.ofInt
  rw [gathered]
  by_cases negative : n < 0
  · have inRange : ¬(n.natAbs = 0 ∨ 2 ^ 63 < n.natAbs) := by omega
    have back : -(n.natAbs : ℤ) = n := by omega
    simp only [negative, ne_eq, not_true_eq_false, Option.isSome_none, Bool.false_eq_true, or_self, if_false,
      decide_true, Bool.not_true, if_neg inRange, back]
  · simp [negative]
    omega

end Integers

/-! ### The tokens of a value -/

/-- A text has tokens, each of which takes characters off its front, the first of them no blank. -/
inductive Lexes : List Sign → List Token → Prop where
  | nil : Lexes [] []
  | cons {c : Char} (cs : List Char) {rest : List Sign} {token : Token} {ts : List Token}
      (visible : isSpace (some c) = false)
      (read : readToken (some c :: (cs.map some ++ rest)) = some (token, rest)) (more : Lexes rest ts) :
      Lexes (some c :: (cs.map some ++ rest)) (token :: ts)

theorem Lexes.tokensWithin_eq {signs : List Sign} {ts : List Token} (lexes : Lexes signs ts) :
    ∀ (fuel : ℕ), signs.length ≤ fuel → tokensWithin fuel signs = ts := by
  induction lexes with
  | nil =>
      intro fuel _
      cases fuel <;> rfl
  | cons cs visible read _ inductionHypothesis =>
      intro fuel enough
      rw [List.length_cons, List.length_append] at enough
      obtain ⟨fuel, rfl⟩ : ∃ less, fuel = less + 1 := Nat.exists_eq_succ_of_ne_zero (by omega)
      have remains := inductionHypothesis fuel (by omega)
      rw [tokensWithin, List.dropWhile_cons_of_neg (by simp [visible])]
      simp only [read, remains]

namespace Value

mutual

def tokens : Value → List Token
  | null => [.null]
  | bool b => [.bool b]
  | integer n => [.number (.ofInt n)]
  | string s => [.string (some s)]
  | array items => .openBracket :: itemsTokens items
  | object members => .openBrace :: membersTokens members

/-- The tokens of the items of a list and of its closing bracket. -/
def itemsTokens : List Value → List Token
  | [] => [.closeBracket]
  | [item] => item.tokens ++ [.closeBracket]
  | item :: next :: rest => item.tokens ++ .comma :: itemsTokens (next :: rest)

/-- The tokens of the members of a record and of its closing brace. -/
def membersTokens : List (String × Value) → List Token
  | [] => [.closeBrace]
  | [(key, value)] => .string (some key) :: .colon :: (value.tokens ++ [.closeBrace])
  | (key, value) :: next :: rest =>
    .string (some key) :: .colon :: (value.tokens ++ .comma :: membersTokens (next :: rest))

end

section Lexing

variable {rest : List Sign} {ts : List Token}

theorem lexes_quote (s : String) (more : Lexes rest ts) :
    Lexes ((quote s).map some ++ rest) (.string (some s) :: ts) :=
  .cons (s.toList.flatMap escape ++ ['"']) rfl (readToken_quote s rest) more

theorem lexes_integer (n : ℤ) (stops : Stops rest) (more : Lexes rest ts) :
    Lexes ((integerChars n).map some ++ rest) (.number (.ofInt n) :: ts) := by
  have read := readToken_integer n stops
  obtain ⟨c, digits, eq, mark⟩ := integerChars_eq_cons n
  rw [eq, List.map_cons, List.cons_append] at read ⊢
  refine .cons digits ?_ read more
  rcases mark with rfl | digit
  · rfl
  · simp only [isSpace, Bool.or_eq_false_iff, beq_eq_false_iff_ne]
    refine ⟨⟨⟨?_, ?_⟩, ?_⟩, ?_⟩ <;> rintro rfl <;> cases digit

mutual

/-- The characters of a value are its tokens one by one. -/
theorem lexes_chars : ∀ (value : Value) {rest : List Sign} {ts : List Token}, Stops rest → Lexes rest ts →
    Lexes (value.chars.map some ++ rest) (value.tokens ++ ts)
  | null, _, _, _, more => .cons ['u', 'l', 'l'] rfl rfl more
  | bool true, _, _, _, more => .cons ['r', 'u', 'e'] rfl rfl more
  | bool false, _, _, _, more => .cons ['a', 'l', 's', 'e'] rfl rfl more
  | integer n, _, _, stops, more => lexes_integer n stops more
  | string s, _, _, _, more => lexes_quote s more
  | array items, _, _, _, more => .cons [] rfl rfl (lexes_itemsChars items more)
  | object members, _, _, _, more => .cons [] rfl rfl (lexes_membersChars members more)

/-- The same of the items of a list. -/
theorem lexes_itemsChars : ∀ (items : List Value) {rest : List Sign} {ts : List Token}, Lexes rest ts →
    Lexes ((itemsChars items).map some ++ rest) (itemsTokens items ++ ts)
  | [], _, _, more => .cons [] rfl rfl more
  | [item], rest, ts, more => by
      have closing : Lexes (some ']' :: rest) (.closeBracket :: ts) := .cons [] rfl rfl more
      simpa [itemsChars, itemsTokens] using lexes_chars item stops_closeBracket closing
  | item :: next :: items, rest, ts, more => by
      have others := lexes_itemsChars (next :: items) more
      have comma : Lexes (some ',' :: ((itemsChars (next :: items)).map some ++ rest))
          (.comma :: (itemsTokens (next :: items) ++ ts)) := .cons [] rfl rfl others
      simpa [itemsChars, itemsTokens] using lexes_chars item stops_comma comma

/-- The same of the members of a record. -/
theorem lexes_membersChars : ∀ (members : List (String × Value)) {rest : List Sign} {ts : List Token},
    Lexes rest ts → Lexes ((membersChars members).map some ++ rest) (membersTokens members ++ ts)
  | [], _, _, more => .cons [] rfl rfl more
  | [(key, value)], rest, ts, more => by
      have closing : Lexes (some '\x7d' :: rest) (.closeBrace :: ts) := .cons [] rfl rfl more
      have content := lexes_chars value stops_closeBrace closing
      have colon : Lexes (some ':' :: (value.chars.map some ++ some '\x7d' :: rest))
          (.colon :: (value.tokens ++ .closeBrace :: ts)) := .cons [] rfl rfl content
      simpa [membersChars, membersTokens] using lexes_quote key colon
  | (key, value) :: next :: members, rest, ts, more => by
      have others := lexes_membersChars (next :: members) more
      have comma : Lexes (some ',' :: ((membersChars (next :: members)).map some ++ rest))
          (.comma :: (membersTokens (next :: members) ++ ts)) := .cons [] rfl rfl others
      have content := lexes_chars value stops_comma comma
      have colon : Lexes
          (some ':' :: (value.chars.map some ++ some ',' :: ((membersChars (next :: members)).map some ++ rest)))
          (.colon :: (value.tokens ++ .comma :: (membersTokens (next :: members) ++ ts))) := .cons [] rfl rfl content
      simpa [membersChars, membersTokens] using lexes_quote key colon

end

/-- The tokens of the text of a value. -/
theorem tokens_chars (value : Value) : Json.tokens (value.chars.map some) = value.tokens := by
  have lexes : Lexes (value.chars.map some ++ []) (value.tokens ++ []) := lexes_chars value (by rintro _ ⟨⟩) .nil
  simp only [List.append_nil] at lexes
  exact lexes.tokensWithin_eq _ le_rfl

end Lexing

/-! ### The tree of a value -/

mutual

def tree : Value → Tree
  | null => .null
  | bool b => .bool b
  | integer n => .number (.ofInt n)
  | string s => .string (some s)
  | array items => .array (itemTrees items) true
  | object members => .object (memberTrees members) true

def itemTrees : List Value → List Tree
  | [] => []
  | item :: items => item.tree :: itemTrees items

/-- The trees of the members of a record, with their names. -/
def memberTrees : List (String × Value) → List (Option String × Tree)
  | [] => []
  | (key, value) :: members => (some key, value.tree) :: memberTrees members

end

/-- No value begins with a closing bracket. -/
theorem tokens_eq_cons (value : Value) : ∃ token more, value.tokens = token :: more ∧ token ≠ .closeBracket := by
  cases value <;> exact ⟨_, _, rfl, by simp⟩

theorem tokens_length_pos (value : Value) : 0 < value.tokens.length := by
  obtain ⟨token, more, eq, -⟩ := value.tokens_eq_cons
  simp [eq]

theorem itemsTokens_eq_cons (item : Value) (items : List Value) :
    ∃ token more, itemsTokens (item :: items) = token :: more ∧ token ≠ .closeBracket := by
  obtain ⟨token, more, eq, noClose⟩ := item.tokens_eq_cons
  cases items with
  | nil => exact ⟨token, more ++ [.closeBracket], by rw [itemsTokens, eq, List.cons_append], noClose⟩
  | cons next items =>
      exact ⟨token, more ++ .comma :: itemsTokens (next :: items), by rw [itemsTokens, eq, List.cons_append], noClose⟩

theorem membersTokens_eq_cons (key : String) (value : Value) (members : List (String × Value)) :
    ∃ more, membersTokens ((key, value) :: members) = .string (some key) :: more := by
  cases members <;> exact ⟨_, rfl⟩

section Building

variable {fuel : ℕ} {rest : List Token}

private theorem readValue_items {token : Token} (noClose : token ≠ .closeBracket) {ts : List Token}
    {items : List Tree} (read : readItems fuel (token :: ts) = (items, true, rest)) :
    readValue (fuel + 1) (.openBracket :: token :: ts) = (.array items true, rest) := by
  rw [readValue, read]
  rintro _ ⟨⟩
  exact noClose rfl

private theorem readValue_members {content : Option String} {ts : List Token} {members : List (Option String × Tree)}
    (read : readMembers fuel (.string content :: ts) = (members, true, rest)) :
    readValue (fuel + 1) (.openBrace :: .string content :: ts) = (.object members true, rest) := by
  rw [readValue, read]
  simp

mutual

/-- The tokens of a value are read as its tree, two steps for every token being enough. -/
theorem readValue_tokens : ∀ (value : Value) (fuel : ℕ) (rest : List Token),
    2 * value.tokens.length ≤ fuel + 1 → readValue fuel (value.tokens ++ rest) = (value.tree, rest)
  | null, fuel + 1, _, _ | bool _, fuel + 1, _, _ | integer _, fuel + 1, _, _ | string _, fuel + 1, _, _ => rfl
  | array [], fuel + 1, _, _ | object [], fuel + 1, _, _ => rfl
  | array (item :: items), fuel + 1, rest, enough => by
      rw [tokens, List.length_cons] at enough
      have inner := readItems_tokens (item :: items) (List.cons_ne_nil _ _) fuel rest (by omega)
      obtain ⟨token, more, eq, noClose⟩ := itemsTokens_eq_cons item items
      rw [tokens, eq]
      rw [eq] at inner
      exact readValue_items noClose inner
  | object ((key, value) :: members), fuel + 1, rest, enough => by
      rw [tokens, List.length_cons] at enough
      have inner := readMembers_tokens ((key, value) :: members) (List.cons_ne_nil _ _) fuel rest (by omega)
      obtain ⟨more, eq⟩ := membersTokens_eq_cons key value members
      rw [tokens, eq]
      rw [eq] at inner
      exact readValue_members inner

/-- The same of the items of a list that has some. -/
theorem readItems_tokens : ∀ (items : List Value), items ≠ [] → ∀ (fuel : ℕ) (rest : List Token),
    2 * (itemsTokens items).length ≤ fuel + 2 →
    readItems fuel (itemsTokens items ++ rest) = (itemTrees items, true, rest)
  | [], something, _, _, _ => absurd rfl something
  | [item], _, fuel, rest, enough => by
      rw [itemsTokens, List.length_append, List.length_singleton] at enough
      have something := item.tokens_length_pos
      obtain ⟨fuel, rfl⟩ : ∃ less, fuel = less + 1 := Nat.exists_eq_succ_of_ne_zero (by omega)
      have first := readValue_tokens item fuel (.closeBracket :: rest) (by omega)
      rw [itemsTokens, List.append_assoc, List.singleton_append, readItems, first]
      rfl
  | item :: next :: items, _, fuel, rest, enough => by
      rw [itemsTokens, List.length_append, List.length_cons] at enough
      have something := item.tokens_length_pos
      obtain ⟨fuel, rfl⟩ : ∃ less, fuel = less + 1 := Nat.exists_eq_succ_of_ne_zero (by omega)
      have first := readValue_tokens item fuel (.comma :: (itemsTokens (next :: items) ++ rest)) (by omega)
      have others := readItems_tokens (next :: items) (List.cons_ne_nil _ _) fuel rest (by omega)
      rw [itemsTokens, List.append_assoc, List.cons_append, readItems, first]
      simp only [others]
      rfl

/-- The same of the members of a record that has some. -/
theorem readMembers_tokens : ∀ (members : List (String × Value)), members ≠ [] → ∀ (fuel : ℕ) (rest : List Token),
    2 * (membersTokens members).length ≤ fuel + 2 →
    readMembers fuel (membersTokens members ++ rest) = (memberTrees members, true, rest)
  | [], something, _, _, _ => absurd rfl something
  | [(key, value)], _, fuel, rest, enough => by
      rw [membersTokens, List.length_cons, List.length_cons, List.length_append, List.length_singleton] at enough
      obtain ⟨fuel, rfl⟩ : ∃ less, fuel = less + 1 := Nat.exists_eq_succ_of_ne_zero (by omega)
      have first := readValue_tokens value fuel (.closeBrace :: rest) (by omega)
      rw [membersTokens, List.cons_append, List.cons_append, List.append_assoc, List.singleton_append, readMembers,
        first]
      rfl
  | (key, value) :: next :: members, _, fuel, rest, enough => by
      rw [membersTokens, List.length_cons, List.length_cons, List.length_append, List.length_cons] at enough
      obtain ⟨fuel, rfl⟩ : ∃ less, fuel = less + 1 := Nat.exists_eq_succ_of_ne_zero (by omega)
      have first := readValue_tokens value fuel (.comma :: (membersTokens (next :: members) ++ rest)) (by omega)
      have others := readMembers_tokens (next :: members) (List.cons_ne_nil _ _) fuel rest (by omega)
      rw [membersTokens, List.cons_append, List.cons_append, List.append_assoc, List.cons_append, readMembers, first]
      simp only [others]
      rfl

end

end Building

/-- The text of a value is read as its tree, and nothing is left over. -/
theorem treeOf_toText (value : Value) : treeOf value.toText.toList = (value.tree, []) := by
  have built := value.readValue_tokens (2 * value.tokens.length + 1) [] (by omega)
  rw [List.append_nil] at built
  rw [toText, String.toList_ofList, treeOf, treeOfSigns, tokens_chars]
  exact built

/-- To read the text of a value is to read its tree. -/
theorem readAll_toText {α : Type} (read : Reader α) (value : Value) : readAll read value.toText = read value.tree := by
  simp only [readAll, treeOf_toText, if_true]
  cases read value.tree <;> rfl

end Value

end Passbook.Json

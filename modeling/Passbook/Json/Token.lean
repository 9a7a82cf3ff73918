import Passbook.Json.Number
/-!
# JSON tokens

The text of a JSON value is divided into marks, literals and strings.  Where the text is no token, a
`broken` token stands for all the rest of it, so that a reader can still use what comes before.  The text
may come from bytes that do not encode it all: only in a string may such bytes stand, and it has no content
then.
-/

namespace Passbook.Json

inductive Token where
  | openBrace
  | closeBrace
  | openBracket
  | closeBracket
  | colon
  | comma
  | null
  | bool (value : Bool)
  | number (literal : NumberLiteral)
  /-- A string.  It has no content if an escape in it is half of a surrogate pair, or if bytes in it encode
  no character. -/
  | string (content : Option String)
  /-- The rest of the text is no token. -/
  | broken
deriving DecidableEq, Repr

/-- What stands at some place of a text: a character, or bytes that encode none. -/
abbrev Sign := Option Char

def isSpace : Sign → Bool
  | some c => c == ' ' || c == '\t' || c == '\n' || c == '\r'
  | none => false

/-! ### Strings -/

/-- A piece of a string: a character, a unit of UTF-16 that an escape stands for, or bytes that encode no
character. -/
inductive Piece where
  | char (c : Char)
  | unit (u : Nat)
  | stray
deriving DecidableEq, Repr

/-- The value of a hexadecimal digit of either case. -/
def hexValue? (c : Char) : Option Nat :=
  if c.isDigit then some (c.toNat - '0'.toNat)
  else if 'a' ≤ c ∧ c ≤ 'f' then some (c.toNat - 'a'.toNat + 10)
  else if 'A' ≤ c ∧ c ≤ 'F' then some (c.toNat - 'A'.toNat + 10)
  else none

/-- The character that a backslash and a letter or mark stand for. -/
def escapes : List (Char × Char) :=
  [('"', '"'), ('\\', '\\'), ('/', '/'), ('b', '\x08'), ('f', '\x0c'), ('n', '\n'), ('r', '\r'),
    ('t', '\t')]

/-- The pieces of a string up to its closing quote, and what comes behind that. -/
def readPieces : List Sign → Option (List Piece × List Sign)
  | [] => none
  | some '"' :: rest => some ([], rest)
  | some '\\' :: some 'u' :: some a :: some b :: some c :: some d :: rest => do
    let digits ← [a, b, c, d].mapM hexValue?
    let (pieces, rest) ← readPieces rest
    some (.unit (digits.foldl (fun n digit => n * 16 + digit) 0) :: pieces, rest)
  | some '\\' :: some e :: rest => do
    let c ← escapes.lookup e
    let (pieces, rest) ← readPieces rest
    some (.char c :: pieces, rest)
  | some c :: rest =>
    if c.toNat < 0x20 ∨ c = '\\' then none
    else do
      let (pieces, rest) ← readPieces rest
      some (.char c :: pieces, rest)
  | none :: rest => do
    let (pieces, rest) ← readPieces rest
    some (.stray :: pieces, rest)

/-- Whether a unit is the first half of a surrogate pair. -/
def isHighSurrogate (u : Nat) : Bool := 0xD800 ≤ u && u < 0xDC00

/-- Whether a unit is the second half of a surrogate pair. -/
def isLowSurrogate (u : Nat) : Bool := 0xDC00 ≤ u && u < 0xE000

/-- Put pieces together.  The halves of a surrogate pair have to be neighbours. -/
def joinPieces : List Piece → Option (List Char)
  | [] => some []
  | .char c :: rest => (joinPieces rest).map (c :: ·)
  | .stray :: _ => none
  | .unit u :: .unit v :: rest =>
    if isHighSurrogate u then
      if isLowSurrogate v then
        (joinPieces rest).map (Char.ofNat (0x10000 + (u - 0xD800) * 0x400 + (v - 0xDC00)) :: ·)
      else none
    else if isLowSurrogate u then none
    else (joinPieces (.unit v :: rest)).map (Char.ofNat u :: ·)
  | .unit u :: rest =>
    if isHighSurrogate u || isLowSurrogate u then none
    else (joinPieces rest).map (Char.ofNat u :: ·)

/-! ### Numbers -/

/-- The digits in front, and the rest. -/
def spanDigits : List Sign → List Char × List Sign
  | some c :: rest =>
    if c.isDigit then (c :: (spanDigits rest).1, (spanDigits rest).2) else ([], some c :: rest)
  | signs => ([], signs)

/-- Take the digits before the point off the front: a zero alone, or digits that begin with another
one. -/
def readWhole (signs : List Sign) : Option (List Char × List Sign) :=
  match spanDigits signs with
  | ([], _) => none
  | ('0' :: _ :: _, _) => none
  | (digits, rest) => some (digits, rest)

/-- Take a fraction off the front, if there is one.  A point is followed by a digit. -/
def readFraction (signs : List Sign) : Option (List Char × List Sign) :=
  match signs with
  | some '.' :: rest =>
    match spanDigits rest with
    | ([], _) => none
    | (digits, rest) => some (digits, rest)
  | signs => some ([], signs)

/-- Take an exponent off the front, if there is one. -/
def readExponent (signs : List Sign) : Option (Option Exponent × List Sign) :=
  match signs with
  | some c :: rest =>
    if c = 'e' ∨ c = 'E' then
      let (negative, rest) :=
        match rest with
        | some '-' :: rest => (true, rest)
        | some '+' :: rest => (false, rest)
        | rest => (false, rest)
      match spanDigits rest with
      | ([], _) => none
      | (digits, rest) => some (some ⟨negative, digits⟩, rest)
    else
      some (none, signs)
  | signs => some (none, signs)

/-- Take a number literal off the front. -/
def readNumber (signs : List Sign) : Option (NumberLiteral × List Sign) := do
  let (negative, signs) :=
    match signs with
    | some '-' :: rest => (true, rest)
    | signs => (false, signs)
  let (whole, signs) ← readWhole signs
  let (fraction, signs) ← readFraction signs
  let (exponent, signs) ← readExponent signs
  some (⟨negative, whole, fraction, exponent⟩, signs)

/-! ### The text as tokens -/

/-- Take the first token off a text that does not begin with a blank. -/
def readToken : List Sign → Option (Token × List Sign)
  | some '\x7b' :: rest => some (.openBrace, rest)
  | some '\x7d' :: rest => some (.closeBrace, rest)
  | some '[' :: rest => some (.openBracket, rest)
  | some ']' :: rest => some (.closeBracket, rest)
  | some ':' :: rest => some (.colon, rest)
  | some ',' :: rest => some (.comma, rest)
  | some 'n' :: some 'u' :: some 'l' :: some 'l' :: rest => some (.null, rest)
  | some 't' :: some 'r' :: some 'u' :: some 'e' :: rest => some (.bool true, rest)
  | some 'f' :: some 'a' :: some 'l' :: some 's' :: some 'e' :: rest => some (.bool false, rest)
  | some '"' :: rest =>
    (readPieces rest).map fun (pieces, rest) =>
      (.string ((joinPieces pieces).map String.ofList), rest)
  | signs => (readNumber signs).map fun (literal, rest) => (.number literal, rest)

/-- The tokens of a text, at most `fuel` of them. -/
def tokensWithin : Nat → List Sign → List Token
  | 0, _ => []
  | fuel + 1, signs =>
    match signs.dropWhile isSpace with
    | [] => []
    | sign :: signs =>
      match readToken (sign :: signs) with
      | some (token, rest) => token :: tokensWithin fuel rest
      | none => [.broken]

/-- The tokens of a text.  Every token takes at least one sign. -/
def tokens (signs : List Sign) : List Token := tokensWithin signs.length signs

example : tokens ("[1, \"a\\u0062\"]".toList.map some) =
    [.openBracket, .number ⟨false, ['1'], [], none⟩, .comma, .string (some "ab"), .closeBracket] := by
  decide +kernel

example : tokens [some '"', none, some '"', some '1', none] =
    [.string none, .number ⟨false, ['1'], [], none⟩, .broken] := by
  decide +kernel

end Passbook.Json

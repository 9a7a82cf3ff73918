import Passbook.Uuid.Basic
/-!
# Reading identifiers

An identifier is read from its thirty-two digits without hyphens, or from its hyphenated form, which may
stand in braces or behind `urn:uuid:`.  Letters may be of either case.  A text of another form is
diagnosed: by its length, by its first foreign character, or by the groups that its hyphens make.
-/

namespace Passbook.Uuid

/-- Why a text is no identifier. -/
inductive ParseError where
  | length (found : Nat)
  | character (c : Char) (index : Nat)
  | groupCount (found : Nat)
  | groupLength (group expected found : Nat)
deriving Repr, DecidableEq

def ParseError.message : ParseError → String
  | .length found => s!"invalid length: found {found}"
  | .character c index => s!"invalid character: found \x60{c}\x60 at {index}"
  | .groupCount found => s!"invalid group count: expected 5, found {found}"
  | .groupLength group expected found =>
      s!"invalid group length in group {group}: expected {expected}, found {found}"

/-- The value of a hexadecimal digit of either case. -/
def hexValue? (c : Char) : Option Nat :=
  if c.isDigit then some (c.toNat - '0'.toNat)
  else if 'a' ≤ c ∧ c ≤ 'f' then some (c.toNat - 'a'.toNat + 10)
  else if 'A' ≤ c ∧ c ≤ 'F' then some (c.toNat - 'A'.toNat + 10)
  else none

/-- Thirty-two hexadecimal digits as an identifier. -/
def ofDigits? (cs : List Char) : Option Uuid :=
  if cs.length = digitCount then
    (cs.mapM hexValue?).map fun digits => ofNat (digits.foldl (fun n d => n * 16 + d) 0)
  else
    none

def ofHyphenated? (cs : List Char) : Option Uuid :=
  let groups := splitGroups (cs.filter (· ≠ '-')) groupLengths
  if cs = List.intercalate ['-'] groups then ofDigits? groups.flatten else none

/-- The mark that may stand in front of the hyphenated form. -/
def urnMark : List Char := "urn:uuid:".toList

/-- The length of a list of characters in bytes. -/
def byteLength (cs : List Char) : Nat := (String.ofList cs).utf8ByteSize

/-- What stands between braces that enclose a text. -/
def inBraces? (cs : List Char) : Option (List Char) :=
  match cs with
  | '{' :: rest => if rest.getLast? = some '}' then some rest.dropLast else none
  | _ => none

/-- What stands behind the mark, which may be of either case. -/
def afterUrn? (cs : List Char) : Option (List Char) :=
  if (cs.take urnMark.length).map Char.toLower = urnMark then some (cs.drop urnMark.length)
  else none

/-- The part of a text that should be the hyphenated form, going by the length of the text. -/
def hyphenatedPart? (cs : List Char) : Option (List Char) :=
  match byteLength cs with
  | 36 => some cs
  | 38 => inBraces? cs
  | 45 => afterUrn? cs
  | _ => none

/-- The first character that is neither a hexadecimal digit nor a hyphen, with its byte index. -/
def foreignChar? : Nat → List Char → Option (Char × Nat)
  | _, [] => none
  | index, c :: rest =>
    if c = '-' ∨ (hexValue? c).isSome then foreignChar? (index + c.utf8Size) rest else some (c, index)

/-- The byte indexes of the hyphens in a text of ASCII characters. -/
def hyphenIndexes (cs : List Char) : List Nat :=
  (cs.zipIdx.filter (·.1 = '-')).map (·.2)

/-- For each group but the last: its number, where it begins, and its length. -/
def groupPlaces : List (Nat × Nat × Nat) := [(0, 0, 8), (1, 9, 4), (2, 14, 4), (3, 19, 4)]

def lastGroupStart : Nat := 24

/-- What is wrong with `body`, which begins `offset` bytes into a text of `length` bytes and in which
hyphens are expected if `hyphenated`. -/
def diagnose (body : List Char) (offset length : Nat) (hyphenated : Bool) : ParseError :=
  match foreignChar? offset body with
  | some (c, index) => .character c index
  | none =>
    let hyphens := hyphenIndexes body
    if hyphens = [] ∧ !hyphenated then
      .length length
    else if hyphens.length ≠ 4 then
      .groupCount (hyphens.length + 1)
    else
      match (groupPlaces.zip hyphens).find? fun (place, hyphen) => hyphen ≠ place.2.1 + place.2.2 with
      | some ((group, start, expected), hyphen) => .groupLength group expected (hyphen - start)
      | none => .groupLength 4 12 (length - lastGroupStart)

def longestText : Nat := 45

/-- What is wrong with a text whose length is not that of a written form with hyphens. -/
def diagnoseText (cs : List Char) : ParseError :=
  let length := byteLength cs
  if length = 0 ∨ longestText < length then
    .length length
  else
    match inBraces? cs with
    | some body => diagnose body 1 length true
    | none =>
      match afterUrn? cs with
      | some body => diagnose body urnMark.length length true
      | none => diagnose cs 0 length false

def parse (s : String) : Except ParseError Uuid :=
  let cs := s.toList
  match hyphenatedPart? cs with
  | some body =>
    match ofHyphenated? body with
    | some u => .ok u
    | none => .error (diagnose body 0 (byteLength body) true)
  | none =>
    match ofDigits? cs with
    | some u => .ok u
    | none => .error (diagnoseText cs)

example : (parse "URN:UUID:67E55044-10B1-426F-9247-BB680E5FE0C8").toOption.map toText
    = some "67e55044-10b1-426f-9247-bb680e5fe0c8" := by decide +kernel

end Passbook.Uuid

/-!
# JSON values and their text

The values that the library writes, and how they are written: without blanks, members in the order in
which they are given, and in strings only those characters escaped that have to be.
-/

namespace Passbook.Json

inductive Value where
  | null
  | bool (value : Bool)
  | integer (n : Int)
  | string (s : String)
  | array (items : List Value)
  | object (members : List (String × Value))
deriving Repr, Inhabited

namespace Value

/-- A value or `null`. -/
def ofOption (value : Option Value) : Value := value.getD null

def member? (key : String) : Value → Option Value
  | object members => members.lookup key
  | _ => none

/-! ### Text -/

/-- A hexadecimal digit in lower case. -/
def hexDigit (n : Nat) : Char := Nat.digitChar n

/-- A character of a string as it is written. -/
def escape (c : Char) : List Char :=
  if c = '"' then ['\\', '"']
  else if c = '\\' then ['\\', '\\']
  else if c = '\n' then ['\\', 'n']
  else if c = '\r' then ['\\', 'r']
  else if c = '\t' then ['\\', 't']
  else if c = '\x08' then ['\\', 'b']
  else if c = '\x0c' then ['\\', 'f']
  else if c.toNat < 0x20 then
    ['\\', 'u', '0', '0', hexDigit (c.toNat / 16), hexDigit (c.toNat % 16)]
  else [c]

def quote (s : String) : List Char := '"' :: (s.toList.flatMap escape ++ ['"'])

def integerChars (n : Int) : List Char :=
  if n < 0 then '-' :: Nat.toDigits 10 n.natAbs else Nat.toDigits 10 n.natAbs

mutual

def chars : Value → List Char
  | null => ['n', 'u', 'l', 'l']
  | bool true => ['t', 'r', 'u', 'e']
  | bool false => ['f', 'a', 'l', 's', 'e']
  | integer n => integerChars n
  | string s => quote s
  | array items => '[' :: itemsChars items
  | object members => '\x7b' :: membersChars members

/-- The items of a list and its closing bracket. -/
def itemsChars : List Value → List Char
  | [] => [']']
  | [item] => item.chars ++ [']']
  | item :: next :: rest => item.chars ++ ',' :: itemsChars (next :: rest)

/-- The members of a record and its closing brace. -/
def membersChars : List (String × Value) → List Char
  | [] => ['\x7d']
  | [(key, value)] => quote key ++ ':' :: value.chars ++ ['\x7d']
  | (key, value) :: next :: rest => quote key ++ ':' :: value.chars ++ ',' :: membersChars (next :: rest)

end

def toText (value : Value) : String := String.ofList value.chars

end Value

example : (Value.object [("a", .array [.integer (-1), .string "\n"])]).toText
    = "\x7b\"a\":[-1,\"\\n\"]\x7d" := by decide +kernel

end Passbook.Json

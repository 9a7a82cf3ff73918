import Passbook.Text.Mark
import Passbook.Text.Printable
/-!
# Texts in quotes

A text within quotation marks, shown so that each of its characters can be told: the marks themselves and
a few controls by a letter, all that does not show itself by its code point.
-/

namespace Passbook.Text

def codePointForm (c : Char) : List Char :=
  ['\\', 'u', '\x7b'] ++ Nat.toDigits 16 c.toNat ++ ['\x7d']

/-- A character within quotation marks. -/
def quotedChar (c : Char) : List Char :=
  if c = '"' then ['\\', '"']
  else if c = '\\' then ['\\', '\\']
  else if c = '\n' then ['\\', 'n']
  else if c = '\r' then ['\\', 'r']
  else if c = '\t' then ['\\', 't']
  else if c = '\x00' then ['\\', '0']
  else if isPrintable c && !isExtender c then [c]
  else codePointForm c

def quoted (s : String) : String := String.ofList ('"' :: s.toList.flatMap quotedChar ++ ['"'])

example : (quoted "a\tb\u0301\"").toList = "\"a\\tb\\u\x7b301\x7d\\\"\"".toList := by decide +kernel

end Passbook.Text

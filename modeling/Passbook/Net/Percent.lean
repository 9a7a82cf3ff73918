import Passbook.Net.Address
import Passbook.Text.Utf8
/-!
# Percent signs in addresses of resources

A percent sign and two hexadecimal digits stand for a byte.  A percent sign without them stands for
itself.
-/

namespace Passbook.Net

/-- The bytes of a text in which percent signs stand for bytes. -/
def percentBytes : List Char → List Nat
  | [] => []
  | '%' :: a :: b :: rest =>
    match digitIn? 16 a, digitIn? 16 b with
    | some high, some low => (high * 16 + low) :: percentBytes rest
    | _, _ => Text.encodeUtf8 ['%'] ++ percentBytes (a :: b :: rest)
  | c :: rest => Text.encodeUtf8 [c] ++ percentBytes rest

/-- The text that percent signs make up. -/
def percentDecode (cs : List Char) : Except String String := Text.decodeUtf8 (percentBytes cs)

/-- The text of a form's field, in which a plus sign stands for a space. -/
def formDecode (cs : List Char) : String :=
  Text.decodeUtf8Lossy (percentBytes (cs.map fun c => if c = '+' then ' ' else c))

def formFields (cs : List Char) : List (String × String) :=
  (cs.splitOn '&').filter (· ≠ []) |>.map fun field =>
    (formDecode (field.takeWhile (· ≠ '=')), formDecode (field.dropWhile (· ≠ '=')).tail)

example : formFields "a=%31+x&&b".toList = [("a", "1 x"), ("b", "")] := by decide +kernel

end Passbook.Net

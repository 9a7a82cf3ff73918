import Passbook.Error
import Passbook.Text.Blank
/-!
# Reading currency codes

A code is three letters in either case, with blanks allowed around them.
-/

namespace Passbook.Currency

/-- Whether a text has the form of a code: three ASCII letters. -/
def wellFormed (s : String) : Bool :=
  s.toList.length == 3 && s.toList.all Char.isAlpha

def parse (s : String) : Except LedgerError Currency :=
  let trimmed := Text.trim s
  if wellFormed trimmed then
    let upper := String.ofList (trimmed.toList.map Char.toUpper)
    match ofCode? upper with
    | some currency => .ok currency
    | none => .error (.invalidCurrency s!"unknown currency '{upper}'")
  else
    .error (.invalidCurrency s!"'{trimmed}' is not a three-letter code")

example : (parse " usd").toOption = some .usd := by decide +kernel

end Passbook.Currency

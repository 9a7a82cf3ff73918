/-!
# Currencies

The currencies an account can be held in, with their three-letter codes and the number of decimals of
their minor unit.
-/

namespace Passbook

inductive Currency where
  | aud | bhd | brl | cad | chf | cny | dkk | eur | gbp | hkd | inr
  | jpy | krw | kwd | mxn | nok | nzd | pln | sek | sgd | usd | zar
deriving DecidableEq, Repr

namespace Currency

def all : List Currency :=
  [.aud, .bhd, .brl, .cad, .chf, .cny, .dkk, .eur, .gbp, .hkd, .inr,
    .jpy, .krw, .kwd, .mxn, .nok, .nzd, .pln, .sek, .sgd, .usd, .zar]

/-- The three-letter code, in upper case. -/
def code : Currency → String
  | aud => "AUD" | bhd => "BHD" | brl => "BRL" | cad => "CAD" | chf => "CHF" | cny => "CNY"
  | dkk => "DKK" | eur => "EUR" | gbp => "GBP" | hkd => "HKD" | inr => "INR" | jpy => "JPY"
  | krw => "KRW" | kwd => "KWD" | mxn => "MXN" | nok => "NOK" | nzd => "NZD" | pln => "PLN"
  | sek => "SEK" | sgd => "SGD" | usd => "USD" | zar => "ZAR"

/-- How many decimals an amount in the currency has: the minor unit is `10 ^ -minorUnits`. -/
def minorUnits : Currency → Nat
  | jpy | krw => 0
  | bhd | kwd => 3
  | _ => 2

def ofCode? (code : String) : Option Currency :=
  all.find? fun c => c.code == code

instance : ToString Currency := ⟨code⟩

def debugText (c : Currency) : String := s!"Currency({c.code})"

/-- `all` leaves no currency out. -/
theorem mem_all (c : Currency) : c ∈ all := by
  cases c <;> decide

end Currency

end Passbook

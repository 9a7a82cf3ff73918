import Passbook.Money.Arithmetic
/-!
# Exchange rates

A table of rates between pairs of currencies.  A rate says how many units of the second currency one unit
of the first is worth; where only the opposite pair is in the table, its reciprocal is the rate.
-/

namespace Passbook

/-- An ordered pair of currencies. -/
structure CurrencyPair where
  source : Currency
  target : Currency
deriving DecidableEq, Repr

instance : ToString CurrencyPair := ⟨fun pair => s!"{pair.source}:{pair.target}"⟩

/-- A converted amount and the rate that led to it. -/
structure Quote where
  converted : Money
  rate : Decimal
deriving DecidableEq, Repr

/-- Rates for pairs of currencies, the latest setting of a pair first. -/
structure RateTable where
  settings : List (CurrencyPair × Decimal)
deriving DecidableEq, Repr

namespace RateTable

def empty : RateTable := ⟨[]⟩

def isEmpty (table : RateTable) : Bool := table.settings.isEmpty

/-- The rate set for a pair, the opposite pair left aside. -/
def setting? (table : RateTable) (pair : CurrencyPair) : Option Decimal :=
  table.settings.lookup pair

/-- Set the rate of a pair in place of an earlier one.  It has to be greater than zero. -/
def set (table : RateTable) (pair : CurrencyPair) (rate : Decimal) : Except LedgerError RateTable :=
  if rate.isPositive then
    .ok ⟨(pair, rate) :: table.settings.filter fun setting => setting.1 ≠ pair⟩
  else
    .error (.invalid s!"rate {pair} must be positive")

/-- The rate of one, for a currency against itself. -/
def unitRate : Decimal := Decimal.ofUInt64 1

/-- The rate of a pair: one for equal currencies, else the rate that is set, else the reciprocal of that
of the opposite pair. -/
def rate? (table : RateTable) (pair : CurrencyPair) : Option Decimal :=
  if pair.source = pair.target then
    some unitRate
  else
    match table.setting? pair with
    | some rate => some rate
    | none => (table.setting? ⟨pair.target, pair.source⟩).bind Decimal.reciprocal?

/-- Convert an amount: times the rate, and the product, as far as it has room, rounded to minor units of
the target, a half away from zero. -/
def convert (table : RateTable) (amount : Money) (target : Currency) :
    Except ConversionError Quote :=
  match table.rate? ⟨amount.currency, target⟩ with
  | none => .error (.unsupportedPair amount.currency target)
  | some rate =>
    match amount.toMajor.mul? rate with
    | none => .error .outOfRange
    | some major =>
      match Money.ofMajor (major.roundTo target.minorUnits) target with
      | .ok converted => .ok ⟨converted, rate⟩
      | .error _ => .error .outOfRange

/-! ### Reading tables

A table is written as `EUR:USD=1.08, GBP:USD=1.27`: pieces between commas, blank ones left out. -/

/-- Divide a list of characters at the first occurrence of a mark. -/
def splitAt? (mark : Char) (cs : List Char) : Option (List Char × List Char) :=
  if mark ∈ cs then
    some (cs.takeWhile (· ≠ mark), (cs.dropWhile (· ≠ mark)).tail)
  else
    none

/-- Read one piece, trimmed, into a table. -/
def readPiece (table : RateTable) (piece : List Char) : Except LedgerError RateTable := do
  let shown := String.ofList piece
  let some (codes, rate) := splitAt? '=' piece
    | throw (.invalid s!"rate '{shown}' is missing '='")
  let some (source, target) := splitAt? ':' codes
    | throw (.invalid s!"rate '{shown}' is missing ':'")
  let rate ←
    match Decimal.parse (Text.trim (String.ofList rate)) with
    | .ok rate => pure rate
    | .error e => throw (.invalid s!"rate '{shown}': {e.message}")
  let source ← Currency.parse (String.ofList source)
  let target ← Currency.parse (String.ofList target)
  table.set ⟨source, target⟩ rate

/-- The pieces of a text between commas. -/
def pieces (cs : List Char) : List (List Char) :=
  cs.splitOn ','

/-- Read a table.  Of two rates for one pair the later one counts. -/
def parse (text : String) : Except LedgerError RateTable :=
  ((pieces text.toList).map Text.trimChars |>.filter (· ≠ [])).foldlM readPiece empty

end RateTable

end Passbook

import Passbook.Text.Blank
import Passbook.Time.Timestamp
/-!
# The written form of points in time

A point in time is written as date, `T`, time of day and offset, with as many groups of three decimals
as it needs.  Reading is more lenient: blanks may stand between the parts, and an offset other than
zero is taken off.
-/

namespace Passbook.Timestamp

-- Powers are those of natural numbers and integers, whatever else is in scope.
attribute [local instance (2000)] instPowNat

/-! ### Writing -/

/-- A number with at least `width` digits. -/
def padded (width n : Nat) : String :=
  let digits := toString n
  String.ofList (List.replicate (width - digits.length) '0') ++ digits

/-- A year: four digits, or with its sign where four do not do. -/
def yearText (year : Int) : String :=
  if 0 ≤ year ∧ year ≤ 9999 then padded 4 year.toNat
  else (if year < 0 then "-" else "+") ++ padded 4 year.natAbs

/-- The decimals of a second: none, three, six or nine. -/
def fractionText (nanos : Nat) : String :=
  if nanos = 0 then ""
  else if nanos % 1000000 = 0 then "." ++ padded 3 (nanos / 1000000)
  else if nanos % 1000 = 0 then "." ++ padded 6 (nanos / 1000)
  else "." ++ padded 9 nanos

def localText (t : Timestamp) : String :=
  let date := t.date
  let second := t.secondOfDay
  let shownSecond := second % 60 + t.nanos / nanosPerSecond
  yearText date.year ++ "-" ++ padded 2 date.month ++ "-" ++ padded 2 date.day ++ "T"
    ++ padded 2 (second / 3600) ++ ":" ++ padded 2 (second / 60 % 60) ++ ":" ++ padded 2 shownSecond
    ++ fractionText (t.nanos % nanosPerSecond)

/-- The written form in records: a zero offset is `Z`. -/
def toText (t : Timestamp) : String := t.localText ++ "Z"

/-- The written form in answers: a zero offset is `+00:00`. -/
def toOffsetText (t : Timestamp) : String := t.localText ++ "+00:00"

/-! ### Reading

A reader takes characters off the front of a text and gives the rest back. -/

def skipBlanks (cs : List Char) : List Char := cs.dropWhile Text.isBlank

def digitsValue (digits : List Char) : Nat :=
  digits.foldl (fun n c => n * 10 + (c.toNat - '0'.toNat)) 0

/-- Take one to `most` digits off the front. -/
def readDigits (most : Nat) (cs : List Char) : Option (List Char × List Char) :=
  let digits := (cs.take most).takeWhile Char.isDigit
  if digits = [] then none else some (digits, cs.drop digits.length)

/-- Take a number of one or two digits off the front, blanks before it allowed. -/
def readField (least greatest : Nat) (cs : List Char) : Option (Nat × List Char) := do
  let (digits, rest) ← readDigits 2 (skipBlanks cs)
  let n := digitsValue digits
  if least ≤ n ∧ n ≤ greatest then some (n, rest) else none

/-- Take a mark off the front, blanks before it allowed. -/
def readMark (mark : Char) (cs : List Char) : Option (List Char) :=
  match skipBlanks cs with
  | c :: rest => if c = mark then some rest else none
  | [] => none

/-- Take a year off the front: four digits at most, or any number of digits behind a sign. -/
def readYear (cs : List Char) : Option (Int × List Char) :=
  match skipBlanks cs with
  | '-' :: rest => do
    let (digits, rest) ← readDigits rest.length rest
    some (-(digitsValue digits : Int), rest)
  | '+' :: rest => do
    let (digits, rest) ← readDigits rest.length rest
    some (digitsValue digits, rest)
  | cs => do
    let (digits, rest) ← readDigits 4 cs
    some (digitsValue digits, rest)

/-- Take the decimals of a second off the front, if there are any.  Nine count, the rest is skipped. -/
def readFraction (cs : List Char) : Option (Nat × List Char) :=
  match cs with
  | '.' :: rest => do
    let (digits, rest) ← readDigits 9 rest
    some (digitsValue digits * 10 ^ (9 - digits.length), rest.dropWhile Char.isDigit)
  | cs => some (0, cs)

/-- Take exactly two digits off the front. -/
def readPair (cs : List Char) : Option (Nat × List Char) :=
  match cs with
  | a :: b :: rest =>
    if a.isDigit && b.isDigit then some (digitsValue [a, b], rest) else none
  | _ => none

/-- Take hours and minutes of an offset off the front, as seconds.  Colons and blanks may stand between
them. -/
def readOffsetDigits (cs : List Char) : Option (Int × List Char) := do
  let (hours, rest) ← readPair cs
  let (minutes, rest) ← readPair (rest.dropWhile fun c => c = ':' || Text.isBlank c)
  if minutes < 60 then some (hours * 3600 + minutes * 60, rest) else none

/-- Take an offset off the front, as seconds: `UTC`, `Z`, or a sign with hours and minutes. -/
def readOffset (cs : List Char) : Option (Int × List Char) :=
  if (cs.take 3).map Char.toUpper = ['U', 'T', 'C'] then
    some (0, cs.drop 3)
  else
    match cs with
    | 'Z' :: rest | 'z' :: rest => some (0, rest)
    | '+' :: rest => readOffsetDigits rest
    | '-' :: rest | '\u2212' :: rest =>
      (readOffsetDigits rest).map fun (seconds, rest) => (-seconds, rest)
    | _ => none

/-- The first and the last year of the calendar. -/
def yearBounds : Int × Int := (-262143, 262142)

/-- Whether a year lies within the calendar. -/
def yearInRange (year : Int) : Bool := yearBounds.1 ≤ year && year ≤ yearBounds.2

/-- Read a point in time.  Second 60 is a leap second. -/
def parse? (s : String) : Option Timestamp := do
  let (year, rest) ← readYear s.toList
  let rest ← readMark '-' rest
  let (month, rest) ← readField 1 12 rest
  let rest ← readMark '-' rest
  let (day, rest) ← readField 1 31 rest
  let rest ← match rest with
    | 'T' :: rest | 't' :: rest | ' ' :: rest => some rest
    | _ => none
  let (hour, rest) ← readField 0 23 rest
  let rest ← readMark ':' rest
  let (minute, rest) ← readField 0 59 rest
  let rest ← readMark ':' rest
  let (second, rest) ← readField 0 60 rest
  let (nanos, rest) ← readFraction rest
  let (offset, rest) ← readOffset (skipBlanks rest)
  let date : Date := ⟨year, month, day⟩
  let leap := second / 60
  let t : Timestamp :=
    { seconds :=
        date.toDays * secondsPerDay + ((hour * 3600 + minute * 60 + (second - leap) : Nat) : Int) - offset
      nanos := nanos + leap * nanosPerSecond }
  if skipBlanks rest = [] ∧ offset.natAbs < 86400 ∧ date.isValid ∧ yearInRange year
      ∧ yearInRange t.date.year then
    some t
  else
    none

example : (parse? "1970-01-01t01:00:00.5+01:00").map toText = some "1970-01-01T00:00:00.500Z" := by
  decide +kernel

end Passbook.Timestamp

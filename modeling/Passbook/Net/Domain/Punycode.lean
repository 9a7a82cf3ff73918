/-!
# Punycode

A text in the characters of host names stands for a text in any: what comes behind its last hyphen tells
which further characters to insert, and where.  Each insertion is written as a number, the distance from
the one before in the order of characters and places, in digits whose weights adapt to the numbers seen.
-/

namespace Passbook.Net.Domain.Punycode

/-- The number of digits. -/
def base : Nat := 36

/-- The value of a digit: letters first, then figures. -/
def digitValue? (c : Char) : Option Nat :=
  if c.isLower then some (c.toNat - 'a'.toNat)
  else if c.isUpper then some (c.toNat - 'A'.toNat)
  else if c.isDigit then some (c.toNat - '0'.toNat + 26)
  else none

/-- The least value that a digit has if a further digit follows, by its place in steps of the base. -/
def threshold (bias place : Nat) : Nat :=
  if place ≤ bias then 1 else if bias + 26 ≤ place then 26 else place - bias

/-- Take a number off the front, its lowest digit first.  `value` is what its digits have come to so far. -/
def readNumber (bias : Nat) : (place weight value : Nat) → List Char → Option (Nat × List Char)
  | _, _, _, [] => none
  | place, weight, value, c :: rest => do
    let digit ← digitValue? c
    let value := value + digit * weight
    if digit < threshold bias place then some (value, rest)
    else readNumber bias (place + base) (weight * (base - threshold bias place)) value rest

/-- What is left is shorter. -/
theorem length_lt_of_readNumber {bias place weight value : Nat} {cs : List Char}
    {number : Nat × List Char} (h : readNumber bias place weight value cs = some number) :
    number.2.length < cs.length := by
  induction cs generalizing place weight value with
  | nil => simp [readNumber] at h
  | cons c rest ih =>
    cases hd : digitValue? c with
    | none => simp [readNumber, hd] at h
    | some digit =>
      simp only [readNumber, hd, Option.bind_eq_bind, Option.bind_some] at h
      split at h
      · rw [← Option.some.inj h]; simp
      · exact Nat.lt_trans (ih h) (by simp)

/-- How often a distance goes into the range of the bias, and what is left of it. -/
def scale (steps delta : Nat) : Nat × Nat :=
  if 455 < delta then scale (steps + 1) (delta / 35) else (steps, delta)
termination_by delta
decreasing_by exact Nat.div_lt_self (by omega) (by omega)

/-- The bias behind a distance, of which the first of all is the longest by far.  `count` is the number of
characters with the one just inserted. -/
def adapt (delta count : Nat) (isFirst : Bool) : Nat :=
  let damped := if isFirst then delta / 700 else delta / 2
  let (steps, left) := scale 0 (damped + damped / count)
  base * steps + base * left / (left + 38)

/-- Insert characters, the last one having been `code` in front of `place`, which is zero before the first
insertion only. -/
def insertAll (bias code place : Nat) (text : List Char) (cs : List Char) : Option (List Char) :=
  match _h : readNumber bias base 1 place cs with
  | none => if cs.isEmpty then some text else none
  | some (number, rest) =>
    let count := text.length + 1
    let c := Char.ofNat (code + number / count)
    if c.toNat = code + number / count then
      insertAll (adapt (number - place) count (place == 0))
        (code + number / count) (number % count + 1) (text.insertIdx (number % count) c) rest
    else
      none
termination_by cs.length
decreasing_by exact length_lt_of_readNumber (by assumption)

/-- The text that a text stands for.  A hyphen in front of all else divides nothing. -/
def decode? (cs : List Char) : Option (List Char) :=
  let behind := (cs.reverse.takeWhile (· ≠ '-')).reverse
  let front := cs.take (cs.length - behind.length)
  if front = ['-'] then none else insertAll 72 0x80 0 front.dropLast behind

example : decode? "mnchen-3ya".toList = some "m\u00fcnchen".toList := by decide +kernel

example : decode? "-a".toList = none := by decide +kernel

end Passbook.Net.Domain.Punycode

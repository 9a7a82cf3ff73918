/-!
# Universally unique identifiers

A 128-bit number, written as thirty-two hexadecimal digits in groups of 8, 4, 4, 4 and 12, and the
time-ordered identifiers that the ledger hands out.
-/

namespace Passbook

-- Powers are those of natural numbers and integers, whatever else is in scope.
attribute [local instance (2000)] instPowNat

/-- The weight of a bit: the number whose only bit it is. -/
def Uuid.weight (bit : Nat) : Nat := 2 ^ bit

/-- A 128-bit identifier. -/
structure Uuid where
  value : Nat
  value_lt : value < Uuid.weight 128
deriving DecidableEq

namespace Uuid

/-- The identifier with the low 128 bits of a number. -/
def ofNat (n : Nat) : Uuid := ⟨n % weight 128, Nat.mod_lt _ (by decide)⟩

/-- How many hexadecimal digits an identifier has. -/
def digitCount : Nat := 32

/-- The lowest `width` hexadecimal digits of a number, highest first. -/
def hexDigits : Nat → Nat → List Nat
  | 0, _ => []
  | width + 1, n => hexDigits width (n / 16) ++ [n % 16]

/-- A hexadecimal digit as a character, in lower case. -/
def digitChar (digit : Nat) : Char := Nat.digitChar digit

def groupLengths : List Nat := [8, 4, 4, 4, 12]

/-- Divide a list into groups of given lengths. -/
def splitGroups (cs : List Char) : List Nat → List (List Char)
  | [] => []
  | n :: rest => cs.take n :: splitGroups (cs.drop n) rest

/-- The written form: lower case, groups joined by hyphens. -/
def toText (u : Uuid) : String :=
  let digits := (hexDigits digitCount u.value).map digitChar
  String.ofList (List.intercalate ['-'] (splitGroups digits groupLengths))

instance : ToString Uuid := ⟨toText⟩

instance : Repr Uuid := ⟨fun u _ => u.toText⟩

/-- The version: the thirteenth digit. -/
def version (u : Uuid) : Nat := u.value / weight 76 % 16

/-- Whether the two bits that name the layout are those of the common variant. -/
def isStandardVariant (u : Uuid) : Bool := u.value / weight 62 % 4 == 2

/-! ### Time-ordered identifiers -/

/-- An identifier of version 7: 48 bits of milliseconds, then 74 bits that tell apart the identifiers of
one millisecond. -/
def timeOrdered (millis counter : Nat) : Uuid :=
  ofNat (millis % weight 48 * weight 80 + 7 * weight 76
    + counter / weight 62 % weight 12 * weight 64 + 2 * weight 62 + counter % weight 62)

/-- A source of identifiers remembers the last one it gave out. -/
structure Source where
  millis : Nat
  counter : Nat
deriving Repr

/-- The next identifier at a time of the clock.  A clock that stands still or runs back does not
disturb the order: the counter goes on, and if it is used up the millisecond is counted up. -/
def Source.next (source : Source) (clock : Nat) : Uuid × Source :=
  let used : Source :=
    if source.millis < clock then ⟨clock, 0⟩
    else if source.counter + 1 < weight 74 then ⟨source.millis, source.counter + 1⟩
    else ⟨source.millis + 1, 0⟩
  (timeOrdered used.millis used.counter, used)

/-- The next `count` identifiers at one time of the clock. -/
def Source.take (source : Source) (clock : Nat) : Nat → List Uuid × Source
  | 0 => ([], source)
  | count + 1 =>
    let (id, source) := source.next clock
    let (ids, source) := source.take clock count
    (id :: ids, source)

example : (ofNat 1).toText = "00000000-0000-0000-0000-000000000001" := by decide +kernel

end Uuid

end Passbook

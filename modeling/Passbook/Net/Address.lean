/-!
# Network addresses

Addresses of both versions of the Internet Protocol, and an address together with a port.  A reader takes
characters off the front of a text and gives the rest back.
-/

namespace Passbook.Net

-- Powers are those of natural numbers and integers, whatever else is in scope.
attribute [local instance (2000)] instPowNat

structure AddressV4 where
  octets : List Nat
deriving DecidableEq, Repr

/-- An address of eight groups of sixteen bits. -/
structure AddressV6 where
  groups : List Nat
deriving DecidableEq, Repr

/-- An address with a port, and in version 6 with a zone, which is zero if none is named. -/
inductive SocketAddress where
  | v4 (address : AddressV4) (port : Nat)
  | v6 (address : AddressV6) (zone port : Nat)
deriving DecidableEq, Repr

/-! ### Writing -/

namespace AddressV4

/-- The octets with points between them. -/
def toText (address : AddressV4) : String := String.intercalate "." (address.octets.map toString)

end AddressV4

namespace AddressV6

def groupText (group : Nat) : String := String.ofList (Nat.toDigits 16 group)

/-- Groups with colons between them. -/
def joinGroups (groups : List Nat) : String := String.intercalate ":" (groups.map groupText)

/-- How many zero groups stand in front. -/
def leadingZeros (groups : List Nat) : Nat := (groups.takeWhile (· == 0)).length

/-- The place and length of the longest run of zero groups, the first one of several.  `index` is the
place of the first of the groups. -/
def longestZeros (index : Nat) : List Nat → Nat × Nat
  | [] => (index, 0)
  | group :: rest =>
    let here := leadingZeros (group :: rest)
    let (place, length) := longestZeros (index + 1) rest
    if length ≤ here then (index, here) else (place, length)

/-- The groups with colons between them, the longest run of more than one zero left out.  An address
that embeds one of version 4 shows that one. -/
def toText (address : AddressV6) : String :=
  match address.groups with
  | [0, 0, 0, 0, 0, 0xffff, a, b] =>
    "::ffff:" ++ AddressV4.toText ⟨[a / 256, a % 256, b / 256, b % 256]⟩
  | groups =>
    let (place, length) := longestZeros 0 groups
    if 1 < length then
      joinGroups (groups.take place) ++ "::" ++ joinGroups (groups.drop (place + length))
    else
      joinGroups groups

end AddressV6

/-- The address, a colon and the port.  An address of version 6 stands in brackets. -/
def SocketAddress.toText : SocketAddress → String
  | .v4 address port => s!"{address.toText}:{port}"
  | .v6 address zone port =>
    let zoneText := if zone = 0 then "" else s!"%{zone}"
    s!"[{address.toText}{zoneText}]:{port}"

/-! ### Reading -/

/-- The value of a digit in a base up to sixteen. -/
def digitIn? (base : Nat) (c : Char) : Option Nat :=
  let value? :=
    if c.isDigit then some (c.toNat - '0'.toNat)
    else if 'a' ≤ c ∧ c ≤ 'f' then some (c.toNat - 'a'.toNat + 10)
    else if 'A' ≤ c ∧ c ≤ 'F' then some (c.toNat - 'A'.toNat + 10)
    else none
  value?.filter (· < base)

/-- Take a number below `bound` off the front, as long as there are digits. -/
def readNumber (base bound : Nat) (cs : List Char) : Option (List Char × Nat × List Char) :=
  let digits := cs.takeWhile fun c => (digitIn? base c).isSome
  let value := (digits.filterMap (digitIn? base)).foldl (fun n d => n * base + d) 0
  if digits ≠ [] ∧ value < bound then some (digits, value, cs.drop digits.length) else none

/-- Take a mark off the front. -/
def readMark (mark : Char) : List Char → Option (List Char)
  | c :: rest => if c = mark then some rest else none
  | [] => none

/-- Take an octet off the front: up to three digits, without a zero in front of others. -/
def readOctet (cs : List Char) : Option (Nat × List Char) := do
  let (digits, value, rest) ← readNumber 10 256 cs
  if 3 < digits.length ∨ (digits.head? = some '0' ∧ 1 < digits.length) then none
  else some (value, rest)

/-- Take an address of version 4 off the front. -/
def readAddressV4 (cs : List Char) : Option (AddressV4 × List Char) := do
  let (a, cs) ← readOctet cs
  let (b, cs) ← readOctet (← readMark '.' cs)
  let (c, cs) ← readOctet (← readMark '.' cs)
  let (d, cs) ← readOctet (← readMark '.' cs)
  some (⟨[a, b, c, d]⟩, cs)

/-- Take a group of up to four hexadecimal digits off the front. -/
def readGroup (cs : List Char) : Option (Nat × List Char) := do
  let (digits, value, rest) ← readNumber 16 65536 cs
  if 4 < digits.length then none else some (value, rest)

/-- Take at most `room` groups off the front, the second and the following behind a colon, and see
whether the last two of them were written as an address of version 4. -/
def readGroups : (room : Nat) → (first : Bool) → List Char → List Nat × Bool × List Char
  | 0, _, cs => ([], false, cs)
  | room + 1, first, cs =>
    match if first then some cs else readMark ':' cs with
    | none => ([], false, cs)
    | some next =>
      match if room = 0 then none else readAddressV4 next with
      | some (⟨[a, b, c, d]⟩, rest) => ([a * 256 + b, c * 256 + d], true, rest)
      | _ =>
        match readGroup next with
        | none => ([], false, cs)
        | some (group, rest) =>
          let (groups, embedded, rest) := readGroups room false rest
          (group :: groups, embedded, rest)

def groupCount : Nat := 8

/-- Take an address of version 6 off the front.  Two colons stand for at least one zero group. -/
def readAddressV6 (cs : List Char) : Option (AddressV6 × List Char) := do
  let (head, embedded, cs) := readGroups groupCount true cs
  if head.length = groupCount then
    some (⟨head⟩, cs)
  else if embedded then
    none
  else
    let cs ← readMark ':' (← readMark ':' cs)
    let (tail, _, cs) := readGroups (groupCount - (head.length + 1)) true cs
    some (⟨head ++ List.replicate (groupCount - head.length - tail.length) 0 ++ tail⟩, cs)

/-- Take a colon and a port off the front. -/
def readPort (cs : List Char) : Option (Nat × List Char) := do
  let (_, port, rest) ← readNumber 10 65536 (← readMark ':' cs)
  some (port, rest)

/-- Take a zone off the front, if there is one. -/
def readZone (cs : List Char) : Nat × List Char :=
  match cs with
  | '%' :: rest =>
    match readNumber 10 (2 ^ (32 : Nat)) rest with
    | some (_, zone, rest) => (zone, rest)
    | none => (0, cs)
  | cs => (0, cs)

/-- Take an address with a port off the front. -/
def readSocketAddress (cs : List Char) : Option (SocketAddress × List Char) :=
  let v4? := do
    let (address, cs) ← readAddressV4 cs
    let (port, cs) ← readPort cs
    some (SocketAddress.v4 address port, cs)
  v4?.or do
    let (address, cs) ← readAddressV6 (← readMark '[' cs)
    let (zone, cs) := readZone cs
    let (port, cs) ← readPort (← readMark ']' cs)
    some (SocketAddress.v6 address zone port, cs)

/-- Read an address of either version. -/
def isAddress (cs : List Char) : Bool :=
  (readAddressV4 cs).any (·.2 == []) || (readAddressV6 cs).any (·.2 == [])

def SocketAddress.parse? (text : String) : Option SocketAddress :=
  match readSocketAddress text.toList with
  | some (address, []) => some address
  | _ => none

example : (SocketAddress.parse? "[2001:db8:0:0:1:0:0:1]:080").map SocketAddress.toText
    = some "[2001:db8::1:0:0:1]:80" := by decide +kernel

example : (SocketAddress.parse? "01.2.3.4:80").map SocketAddress.toText = none := by decide +kernel

end Passbook.Net

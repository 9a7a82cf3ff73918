import Passbook.Net.Domain.Label
import Passbook.Net.Percent
/-!
# Hosts

The host in the address of a resource: an address of the Internet Protocol, or a name.  Under most schemes
a name may be any text without the characters that divide an address.  Under the schemes of the web it is
a domain name, and a name that ends in a number is an address of version 4.
-/

namespace Passbook.Net

-- Powers are those of natural numbers and integers, whatever else is in scope.
attribute [local instance (2000)] instPowNat

inductive HostProblem where
  | empty
  | malformedV4
  | malformedV6
  /-- It is no domain name. -/
  | domain
  /-- A character divides it. -/
  | character
deriving DecidableEq, Repr

def HostProblem.message : HostProblem → String
  | .empty => "empty host"
  | .malformedV4 => "invalid IPv4 address"
  | .malformedV6 => "invalid IPv6 address"
  | .domain => "invalid international domain name"
  | .character => "invalid domain character"

/-! ### Addresses -/

/-- Check what stands behind an opening bracket: an address of version 6 and the closing bracket. -/
def checkBracketed (cs : List Char) : Except HostProblem Unit :=
  if cs.getLast? = some ']' ∧ (readAddressV6 cs.dropLast).any (·.2 == []) then .ok ()
  else .error .malformedV6

/-- The base and the digits of a number: hexadecimal behind `0x`, octal behind a zero, else decimal. -/
def numberForm (cs : List Char) : Nat × List Char :=
  match cs with
  | '0' :: 'x' :: digits | '0' :: 'X' :: digits => (16, digits)
  | '0' :: digit :: digits => (8, digit :: digits)
  | cs => (10, cs)

/-- A number in an address.  Without digits behind the mark of its base it is zero. -/
def partValue? (cs : List Char) : Option Nat :=
  if cs = [] then none
  else
    let (base, digits) := numberForm cs
    (digits.mapM (digitIn? base)).map fun values => values.foldl (fun n d => n * base + d) 0

/-- The labels without an empty one at the end. -/
def withoutRoot (labels : List (List Char)) : List (List Char) :=
  if labels.getLast? = some [] then labels.dropLast else labels

/-- Whether the last label is a number, be it one that can stand in an address or not. -/
def endsInNumber (labels : List (List Char)) : Bool :=
  (withoutRoot labels).getLast?.any fun label =>
    (label != [] && label.all Char.isDigit) || (partValue? label).isSome

/-- Whether labels are an address of version 4 in up to four numbers, of which the last one fills what the
others leave. -/
def isAddressV4 (labels : List (List Char)) : Bool :=
  match (withoutRoot labels).mapM partValue? with
  | none => false
  | some numbers =>
    numbers.length ≤ 4 && numbers.dropLast.all (· < 256)
      && numbers.getLast?.any (· < 256 ^ (5 - numbers.length))

/-! ### Names -/

/-- Check a host that is a domain name or an address. -/
def checkDomain (host : List Char) : Except HostProblem Unit :=
  match host with
  | '[' :: rest => checkBracketed rest
  | host =>
    match (percentDecode host).toOption.bind fun name => Domain.labels? name.toList with
    | none => .error .domain
    | some labels =>
      if labels = [[]] then .error .empty
      else if endsInNumber labels && !isAddressV4 labels then .error .malformedV4
      else .ok ()

/-- Check a host that is any text or an address. -/
def checkPlainHost (host : List Char) : Except HostProblem Unit :=
  match host with
  | '[' :: rest => checkBracketed rest
  | host =>
    if host.any fun c => "\x00\t\n\r #/:<>?@[\\]^|".toList.contains c then .error .character
    else .ok ()

example : isAddressV4 ["0x7f".toList, "1".toList, []] = true := by decide +kernel

example : isAddressV4 ["1".toList, "256".toList, "0".toList] = false := by decide +kernel

end Passbook.Net

/-!
# Media types

The type, the subtype and the parameters with which a client says what its body is.  Parameters have to
be well formed but do not count.
-/

namespace Passbook.Http

/-- A media type in lower case, its parameters left aside.  What follows the last plus sign of a subtype
is its suffix; a plus sign in front is no such sign. -/
structure MediaType where
  type : String
  subtype : String
  suffix : Option String
deriving DecidableEq, Repr

namespace MediaType

/-- Whether a character may stand in a name. -/
def isTokenChar (c : Char) : Bool :=
  c.isAlphanum || "!#$%&'*+-.^_`|~".toList.contains c

/-- Whether a character may stand between quotation marks. -/
def isQuotedChar (c : Char) : Bool := 31 < c.toNat && c.toNat ≠ 127

/-- Drop the value of a parameter, with the semicolon that ends it.  There is none if the value is not
well formed.  An empty value may end the text but not the parameter. -/
def dropValue : List Char → Option (List Char)
  | '"' :: first :: rest =>
    if isQuotedChar first then
      match rest.dropWhile fun c => isQuotedChar c && c ≠ '"' with
      | '"' :: rest =>
        match rest.dropWhile (· == ' ') with
        | [] => some []
        | ';' :: rest => some rest
        | _ => none
      | _ => none
    else none
  | cs =>
    match cs.takeWhile isTokenChar, cs.dropWhile isTokenChar with
    | _, [] => some []
    | _ :: _, ';' :: rest => some rest
    | _, _ => none

/-- Whether a text is a list of at most `bound` parameters. -/
def areParameters : (bound : Nat) → List Char → Bool
  | 0, cs => cs.all (· == ' ')
  | bound + 1, cs =>
    match cs.dropWhile (· == ' ') with
    | [] => true
    | cs =>
      match cs.takeWhile isTokenChar, cs.dropWhile isTokenChar with
      | _ :: _, '=' :: rest => (dropValue rest).any (areParameters bound)
      | _, _ => false

def splitSuffix (name : List Char) : List Char × Option (List Char) :=
  let suffix := (name.reverse.takeWhile (· ≠ '+')).reverse
  let front := name.take (name.length - suffix.length - 1)
  if front = [] then (name, none) else (front, some suffix)

def lowered (cs : List Char) : String := String.ofList (cs.map Char.toLower)

def parse? (text : String) : Option MediaType :=
  let cs := text.toList
  match cs.takeWhile isTokenChar, cs.dropWhile isTokenChar with
  | type@(_ :: _), '/' :: rest =>
    let name := rest.takeWhile isTokenChar
    let (subtype, suffix) := splitSuffix name
    let read : MediaType := ⟨lowered type, lowered subtype, suffix.map lowered⟩
    match rest.dropWhile isTokenChar with
    | [] => some read
    | ';' :: parameters =>
      if !name.isEmpty && areParameters parameters.length parameters then some read else none
    | _ => none
  | _, _ => none

/-- Whether a media type announces JSON, by its subtype or by the suffix of it. -/
def isJson (media : MediaType) : Bool :=
  media.type == "application" && (media.subtype == "json" || media.suffix == some "json")

end MediaType

def announcesJson (text : String) : Bool := (MediaType.parse? text).any (·.isJson)

example : announcesJson "Application/vnd.api+JSON; charset=\"utf-8\"" = true := by decide +kernel

example : announcesJson "application/jsonx" = false := by decide +kernel

end Passbook.Http

import Passbook.Net.Host
/-!
# Addresses of resources

An address is taken apart into host, user, password, path and query.  Its scheme tells how: under the
schemes of the web a host is always there and a backslash divides like a slash, under `file` a host has no
user and no port, and under any other scheme there is a host behind two slashes only.
-/

namespace Passbook.Net

inductive UrlProblem where
  | noScheme
  | host (problem : HostProblem)
  | port
deriving DecidableEq, Repr

def UrlProblem.message : UrlProblem → String
  | .noScheme => "relative URL without a base"
  | .host problem => problem.message
  | .port => "invalid port number"

/-- The parts of an address that are looked at.  They are as written, but for the path, in which the
segments that stand for places are gone. -/
structure Url where
  host : List Char := []
  user : List Char := []
  password : List Char := []
  /-- The path without the slash in front. -/
  path : List Char := []
  query : List Char := []
deriving DecidableEq, Repr

/-! ### Schemes -/

/-- How an address is made up. -/
inductive UrlStyle where
  | general
  | web
  | file
deriving DecidableEq, Repr

def webSchemes : List String := ["http", "https", "ws", "wss", "ftp"]

def UrlStyle.ofScheme (scheme : String) : UrlStyle :=
  if webSchemes.contains scheme then .web else if scheme = "file" then .file else .general

/-- Whether a character divides segments. -/
def UrlStyle.isSlash (style : UrlStyle) (c : Char) : Bool :=
  c == '/' || (c == '\\' && style != .general)

/-- Whether a character begins the query or what follows it. -/
def endsPath (c : Char) : Bool := c == '?' || c == '#'

/-- Blanks at the ends do not count, nor do line ends and tabulators anywhere. -/
def cleanUrl (cs : List Char) : List Char :=
  let isOuter (c : Char) : Bool := c.toNat ≤ 0x20
  let inner := ((cs.dropWhile isOuter).reverse.dropWhile isOuter).reverse
  inner.filter fun c => c != '\t' && c != '\n' && c != '\r'

/-- The scheme in lower case, and what comes behind it. -/
def splitScheme? (cs : List Char) : Option (String × List Char) :=
  let isSchemeChar (c : Char) : Bool := c.isAlphanum || c == '+' || c == '.' || c == '-'
  if cs.head?.any Char.isAlpha then
    match cs.dropWhile isSchemeChar with
    | ':' :: rest => some (String.ofList ((cs.takeWhile isSchemeChar).map Char.toLower), rest)
    | _ => none
  else
    none

/-! ### Paths -/

/-- The dots that a segment consists of, if it consists of dots.  A dot may be written as `%2e`. -/
def dotCount? : List Char → Option Nat
  | [] => some 0
  | '.' :: rest | '%' :: '2' :: 'e' :: rest | '%' :: '2' :: 'E' :: rest =>
    (dotCount? rest).map (· + 1)
  | _ => none

/-- Whether a segment is the letter of a drive, or begins with one and a backslash. -/
def isDrive : List Char → Bool
  | letter :: mark :: rest =>
    letter.isAlpha && (mark == ':' || mark == '|') && rest.head?.all (· == '\\')
  | _ => false

/-- Go back from a place, of which the nearest segment comes first.  There is no way back from the root,
nor from a drive. -/
def goBack : List (List Char) → List (List Char)
  | [] => []
  | segment :: rest => if isDrive segment then segment :: rest else rest

/-- Follow segments from a place, of which the nearest segment comes first.  One dot stands for the place,
two dots lead back; at the end both leave an empty segment. -/
def walk (place : List (List Char)) : List (List Char) → List (List Char)
  | [] => place.reverse
  | [last] =>
    match dotCount? last with
    | some 1 => ([] :: place).reverse
    | some 2 => ([] :: goBack place).reverse
    | _ => (last :: place).reverse
  | segment :: rest =>
    match dotCount? segment with
    | some 1 => walk place rest
    | some 2 => walk (goBack place) rest
    | _ => walk (segment :: place) rest

/-- A path, less the slash in front, with its segments followed. -/
def resolvePath (style : UrlStyle) (cs : List Char) : List Char :=
  let behind := if cs.head?.any style.isSlash then cs.tail else cs
  List.intercalate ['/'] (walk [] (behind.splitOnP style.isSlash))

/-! ### Users, hosts and ports -/

/-- Whether a character ends the part of the address that names user, host and port. -/
def UrlStyle.endsAuthority (style : UrlStyle) (c : Char) : Bool := style.isSlash c || endsPath c

/-- The text in front of the last occurrence of a mark. -/
def beforeLast? (mark : Char) (cs : List Char) : Option (List Char) :=
  if mark ∈ cs then some ((cs.reverse.dropWhile (· ≠ mark)).tail.reverse) else none

/-- Divide a host and what comes behind it.  Within brackets a colon is part of the host. -/
def splitHost (style : UrlStyle) : (bracketed : Bool) → List Char → List Char × List Char
  | _, [] => ([], [])
  | bracketed, c :: rest =>
    if style.endsAuthority c || (c == ':' && !bracketed) then ([], c :: rest)
    else
      let bracketed := if c = '[' then true else if c = ']' then false else bracketed
      let (host, behind) := splitHost style bracketed rest
      (c :: host, behind)

/-- What comes behind a port, which may be missing, as may its number.  A backslash ends it under any
scheme. -/
def dropPort (cs : List Char) : Except UrlProblem (List Char) :=
  match cs with
  | ':' :: rest =>
    let digits := rest.takeWhile Char.isDigit
    let behind := rest.dropWhile Char.isDigit
    let isNumber := digits.isEmpty || (readNumber 10 65536 digits).isSome
    if isNumber && behind.head?.all fun c => c == '/' || c == '\\' || endsPath c then .ok behind
    else .error .port
  | cs => .ok cs

def UrlStyle.checkHost (style : UrlStyle) (host : List Char) : Except UrlProblem Unit :=
  (if style = .general then checkPlainHost host else checkDomain host).mapError .host

/-- Read user, password, host and port, and give back what comes behind. -/
def readAuthority (style : UrlStyle) (cs : List Char) : Except UrlProblem (Url × List Char) := do
  let info? := beforeLast? '@' (cs.takeWhile (!style.endsAuthority ·))
  let behind := (info?.map fun info => cs.drop (info.length + 1)).getD cs
  if info? = some [] ∧ behind.head?.any style.endsAuthority then throw (.host .empty)
  let info := info?.getD []
  let (host, behind) := splitHost style false behind
  if host = [] ∧ (style = .web ∨ behind.head? = some ':') then throw (.host .empty)
  style.checkHost host
  let behind ← dropPort behind
  if host = [] ∧ info ≠ [] ∧ info ≠ [':'] then throw (.host .empty)
  let url : Url := {
    host := host
    user := info.takeWhile (· ≠ ':')
    password := (info.dropWhile (· ≠ ':')).tail }
  return (url, behind)

/-- Read the host of a file, and give back what comes behind.  The letter of a drive is no host. -/
def readFileHost (cs : List Char) : Except UrlProblem (Url × List Char) := do
  let host := cs.takeWhile (!UrlStyle.file.endsAuthority ·)
  if host = [] ∨ (isDrive host ∧ host.length = 2) then return ({}, cs)
  UrlStyle.file.checkHost host
  return ({ host := host }, cs.drop host.length)

/-! ### Addresses -/

/-- Read the part of an address that names the host, if there is one, and give back what comes behind. -/
def readHostPart (style : UrlStyle) (cs : List Char) :
    Except UrlProblem (Option Url × List Char) := do
  match style, cs with
  | .web, cs =>
    let (url, rest) ← readAuthority .web (cs.dropWhile UrlStyle.web.isSlash)
    return (some url, rest)
  | style, a :: b :: rest =>
    if style.isSlash a && style.isSlash b then
      let (url, rest) ← if style = .file then readFileHost rest else readAuthority style rest
      return (some url, rest)
    else
      return (none, cs)
  | _, cs => return (none, cs)

/-- Read an address.  Without a host and a slash in front, a path under a general scheme has no
segments. -/
def Url.parse (text : String) : Except UrlProblem Url := do
  let some (scheme, rest) := splitScheme? (cleanUrl text.toList) | throw .noScheme
  let style := UrlStyle.ofScheme scheme
  let (url?, rest) ← readHostPart style rest
  let path := rest.takeWhile (!endsPath ·)
  let query :=
    match rest.dropWhile (!endsPath ·) with
    | '?' :: query => query.takeWhile (· != '#')
    | _ => []
  let isWhole := style = .general ∧ url? = none ∧ path.head? ≠ some '/'
  return { url?.getD {} with
    path := if isWhole then path else resolvePath style path
    query := query }

example : (Url.parse "db://u:p@h:5/a/./b/%2E./c?d").toOption.map (fun url => String.ofList url.path)
    = some "a/c" := by decide +kernel

end Passbook.Net

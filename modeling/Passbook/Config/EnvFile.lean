import Passbook.Config.Settings
import Passbook.Text.Alphanumeric
import Passbook.Text.Blank
/-!
# Environment files

A file of assignments adds to the environment the variables that are not set in it.  The file is divided
into logical lines, which quoted line ends and comments shape; every line holds at most one assignment,
whose value may be quoted, escaped, and refer to other variables.  The first line that breaks the rules
ends the reading: what was read before counts.
-/

namespace Passbook.Config

/-! ### Environments -/

/-- Variables and their values, the latest first. -/
abbrev Environment := List (String × String)

namespace Environment

/-- An environment whose values are given as bytes.  A value that is not UTF-8 counts as not set. -/
def ofBytes (held : List (String × ByteArray)) : Environment :=
  held.filterMap fun (name, bytes) => (String.fromUTF8? bytes).map (name, ·)

def value? (environment : Environment) (name : String) : Option String := environment.lookup name

def setDefault (environment : Environment) (name value : String) : Environment :=
  match environment.value? name with
  | some _ => environment
  | none => (name, value) :: environment

end Environment

namespace EnvFile

/-! ### Logical lines -/

/-- Where in a logical line the scanner is.  A backslash hides the character behind it from the
scanner. -/
inductive Place where
  | bare
  | blank
  | escaped
  | single
  | singleEscaped
  | double
  | doubleEscaped
deriving DecidableEq, Repr

/-- Whether a character is a blank within a line. -/
def isInnerBlank (c : Char) : Bool := Text.isBlank c && c != '\n' && c != '\r'

/-- The place behind a character outside quotes. -/
def afterBare (c : Char) : Place :=
  match c with
  | '\\' => .escaped
  | '"' => .double
  | '\'' => .single
  | c => if isInnerBlank c then .blank else .bare

/-- The place behind a character.  Only the first blank of several counts as one. -/
def Place.next (c : Char) : Place → Place
  | .bare => afterBare c
  | .blank =>
    match afterBare c with
    | .blank => .bare
    | place => place
  | .escaped => .bare
  | .single => if c = '\\' then .singleEscaped else if c = '\'' then .bare else .single
  | .singleEscaped => .single
  | .double => if c = '\\' then .doubleEscaped else if c = '"' then .bare else .double
  | .doubleEscaped => .double

/-- Scan a physical line.  Behind a blank a number sign begins a comment: the text before it comes
second. -/
def scan : Place → List Char → Place × Option (List Char)
  | place, [] => (place, none)
  | place, c :: rest =>
    if place = .blank ∧ c = '#' then
      (.bare, some [])
    else
      let (last, comment) := scan (place.next c) rest
      (last, comment.map (c :: ·))

/-- The physical lines of a text, each with its line end. -/
def physicalLines (cs : List Char) : List (List Char) :=
  let pieces := cs.splitOn '\n'
  pieces.dropLast.map (· ++ ['\n']) ++ (pieces.getLast?.filter (· ≠ [])).toList

def withoutLineEnd (line : List Char) : List Char :=
  match line.reverse with
  | '\n' :: '\r' :: rest => rest.reverse
  | '\n' :: rest => rest.reverse
  | _ => line

def skipBlanks (cs : List Char) : List Char := cs.dropWhile Text.isBlank

/-- The logical lines that physical lines make up behind what was read of an open one.  A line that
is open at the end of the text is no line. -/
def logicalLines (opened : List Char) (place : Place) : List (List Char) → List (Option (List Char))
  | [] => if place = .bare then [] else [none]
  | line :: rest =>
    let text := opened ++ line
    if (skipBlanks text).head? = some '#' then
      logicalLines [] .bare rest
    else
      match scan place line with
      | (_, some beforeComment) => some (opened ++ beforeComment) :: logicalLines [] .bare rest
      | (.bare, none) => some (withoutLineEnd text) :: logicalLines [] .bare rest
      | (place, none) => logicalLines text place rest

/-! ### Values -/

/-- Where in a value the reader is.  The flags tell whether a place is within double quotes. -/
inductive Spot where
  | plain
  | single
  | double
  /-- Behind a backslash. -/
  | escaped (quoted : Bool)
  /-- In the name of a variable behind a dollar sign. -/
  | name (quoted : Bool) (name : List Char)
  /-- In the name of a variable in braces. -/
  | braced (quoted : Bool) (name : List Char)
  /-- Behind the blank that ends the value. -/
  | ended
deriving DecidableEq, Repr

/-- The spot outside of escapes and names. -/
def Spot.resting (quoted : Bool) : Spot := if quoted then .double else .plain

/-- The character that a backslash and another one stand for. -/
def unescape? (c : Char) : Option Char :=
  if c = 'n' then some '\n'
  else if c ∈ ['\\', '\'', '"', '$', ' '] then some c
  else none

/-- Read a value, with a lookup for variables.  A variable that is not set is replaced by nothing. -/
def readValue (lookup : Lookup) : Spot → List Char → Option (List Char)
  | spot, [] =>
    match spot with
    | .plain | .ended | .escaped false => some []
    | .name false name => some (replacement name)
    | _ => none
  | spot, c :: rest =>
    match spot with
    | .ended =>
      if c = ' ' ∨ c = '\t' then readValue lookup .ended rest
      else if c = '#' then some []
      else none
    | .escaped quoted => do
      let c ← unescape? c
      return c :: (← readValue lookup (.resting quoted) rest)
    | .single =>
      if c = '\'' then readValue lookup .plain rest
      else return c :: (← readValue lookup .single rest)
    | .name quoted name =>
      if Text.isAlphanumeric c then readValue lookup (.name quoted (name ++ [c])) rest
      else if c = '\x7b' ∧ name = [] then readValue lookup (.braced quoted []) rest
      else if c = '$' then
        return replacement name ++ (← readValue lookup (.name quoted []) rest)
      else return replacement name ++ c :: (← readValue lookup (.resting quoted) rest)
    | .braced quoted name =>
      if c = '\x7d' then
        return replacement name ++ (← readValue lookup (.resting quoted) rest)
      else readValue lookup (.braced quoted (name ++ [c])) rest
    | .double =>
      if c = '$' then readValue lookup (.name true []) rest
      else if c = '"' then readValue lookup .plain rest
      else if c = '\\' then readValue lookup (.escaped true) rest
      else return c :: (← readValue lookup .double rest)
    | .plain =>
      if c = '$' then readValue lookup (.name false []) rest
      else if c = '\'' then readValue lookup .single rest
      else if c = '"' then readValue lookup .double rest
      else if c = '\\' then readValue lookup (.escaped false) rest
      else if c = ' ' ∨ c = '\t' then readValue lookup .ended rest
      else return c :: (← readValue lookup .plain rest)
where
  /-- What stands in place of a name. -/
  replacement (name : List Char) : List Char :=
    ((lookup (String.ofList name)).getD "").toList

/-! ### Lines -/

/-- Whether a character may stand first in a name. -/
def isNameStart (c : Char) : Bool := c.isAlpha || c == '_'

/-- Whether a character may stand in a name. -/
def isNameRest (c : Char) : Bool := c.isAlphanum || c == '_' || c == '.'

/-- Take a name and the blanks behind it off the front. -/
def readName (cs : List Char) : Option (List Char × List Char) :=
  if cs.head?.any isNameStart then
    some (cs.takeWhile isNameRest, skipBlanks (cs.dropWhile isNameRest))
  else
    none

/-- Take an equals sign and the blanks behind it off the front. -/
def readEquals (cs : List Char) : Option (List Char) :=
  match cs with
  | '=' :: rest => some (skipBlanks rest)
  | _ => none

/-- The word that may stand in front of a name. -/
def exportMark : List Char := "export".toList

/-- Take the name of an assignment and its equals sign off the front.  The word `export` in front of a
name has no meaning; it is a name itself if an equals sign follows. -/
def readTarget (cs : List Char) : Option (List Char × List Char) := do
  let (name, rest) ← readName cs
  match readEquals rest with
  | some rest => some (name, rest)
  | none =>
    if name = exportMark then do
      let (name, rest) ← readName rest
      some (name, ← readEquals rest)
    else none

/-- What a logical line says. -/
inductive Line where
  | nothing
  | assignment (name value : String)
  | broken
deriving DecidableEq, Repr

/-- Whether a text says nothing: it is empty or a comment. -/
def isVoid (cs : List Char) : Bool := cs.isEmpty || cs.head? == some '#'

def readLine (lookup : Lookup) (line : List Char) : Line :=
  let text := Text.trimChars line
  if isVoid text then .nothing
  else
    match readTarget text with
    | none => .broken
    | some (name, rest) =>
      if isVoid rest then .assignment (String.ofList name) ""
      else
        match readValue lookup .plain rest with
        | some value => .assignment (String.ofList name) (String.ofList value)
        | none => .broken

/-! ### Files -/

/-- Carry out the lines up to the first broken one. -/
def applyLines : Environment → List (Option (List Char)) → Environment
  | environment, [] => environment
  | environment, none :: _ => environment
  | environment, some line :: rest =>
    match readLine environment.value? line with
    | .nothing => applyLines environment rest
    | .assignment name value => applyLines (environment.setDefault name value) rest
    | .broken => environment

/-- A byte order mark at the beginning of a file is no part of its text. -/
def withoutMark (cs : List Char) : List Char :=
  match cs with
  | '\ufeff' :: rest => rest
  | cs => cs

/-- Add what a file sets to an environment. -/
def apply (environment : Environment) (text : String) : Environment :=
  applyLines environment (logicalLines [] .bare (physicalLines (withoutMark text.toList)))

/-- Add what the nearest of several files sets, those farther away left aside. -/
def applyNearest (environment : Environment) (files : List (Option String)) : Environment :=
  match files.findSome? id with
  | some text => apply environment text
  | none => environment

end EnvFile

/-- The settings of an environment to which the nearest environment file is added, and that
environment. -/
def Settings.ofEnvironment (environment : Environment) (files : List (Option String)) :
    Except Invalid Settings × Environment :=
  let extended := EnvFile.applyNearest environment files
  (Settings.read extended.value?, extended)

example :
    (EnvFile.apply [("B", "2")] "export A = 'x'$\x7bB\x7d # y\nB=3\n oops\nC=1\n") =
      [("A", "x2"), ("B", "2")] := by
  decide +kernel

end Passbook.Config

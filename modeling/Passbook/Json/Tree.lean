import Passbook.Json.Token
/-!
# JSON texts as trees

The tree of a JSON text shows the values as far as they can be read: where the text breaks off or breaks
a rule, the lists and records that are open at this place stay unclosed, and what is missing is `broken`.
A reader that walks the tree in the order of the text thus meets the first problem of the text first.
-/

namespace Passbook.Json

/-- What could be read of a JSON value. -/
inductive Tree where
  | null
  | bool (value : Bool)
  | number (literal : NumberLiteral)
  | string (content : Option String)
  | array (items : List Tree) (closed : Bool)
  | object (members : List (Option String × Tree)) (closed : Bool)
  /-- There is no value here. -/
  | broken
deriving Repr, Inhabited

mutual

/-- Read a value off the front. -/
def readValue : Nat → List Token → Tree × List Token
  | 0, ts => (.broken, ts)
  | fuel + 1, ts =>
    match ts with
    | .null :: rest => (.null, rest)
    | .bool b :: rest => (.bool b, rest)
    | .number literal :: rest => (.number literal, rest)
    | .string content :: rest => (.string content, rest)
    | .openBracket :: .closeBracket :: rest => (.array [] true, rest)
    | .openBracket :: rest =>
      let (items, closed, rest) := readItems fuel rest
      (.array items closed, rest)
    | .openBrace :: .closeBrace :: rest => (.object [] true, rest)
    | .openBrace :: rest =>
      let (members, closed, rest) := readMembers fuel rest
      (.object members closed, rest)
    | ts => (.broken, ts)

/-- Read the items of a list, at least one of them, and its closing bracket. -/
def readItems : Nat → List Token → List Tree × Bool × List Token
  | 0, ts => ([], false, ts)
  | fuel + 1, ts =>
    match readValue fuel ts with
    | (item, .comma :: rest) =>
      let (items, closed, rest) := readItems fuel rest
      (item :: items, closed, rest)
    | (item, .closeBracket :: rest) => ([item], true, rest)
    | (item, rest) => ([item], false, rest)

/-- Read the members of a record, at least one of them, and its closing brace. -/
def readMembers : Nat → List Token → List (Option String × Tree) × Bool × List Token
  | 0, ts => ([], false, ts)
  | fuel + 1, ts =>
    match ts with
    | .string key :: .colon :: rest =>
      match readValue fuel rest with
      | (value, .comma :: rest) =>
        let (members, closed, rest) := readMembers fuel rest
        ((key, value) :: members, closed, rest)
      | (value, .closeBrace :: rest) => ([(key, value)], true, rest)
      | (value, rest) => ([(key, value)], false, rest)
    | .string key :: rest => ([(key, .broken)], false, rest)
    | ts => ([], false, ts)

end

/-- The tree of the value that signs begin with, and the tokens behind it.  Reading a value and going on to
the next are two steps for every token at most. -/
def treeOfSigns (signs : List Sign) : Tree × List Token :=
  let ts := tokens signs
  readValue (2 * ts.length + 1) ts

/-- The tree of the value that a text begins with, and the tokens behind it. -/
def treeOf (cs : List Char) : Tree × List Token := treeOfSigns (cs.map some)

namespace Tree

mutual

/-- Whether all of a value keeps to the rules of JSON.  That is all that is asked of a value that is
skipped. -/
def isWellFormed : Tree → Bool
  | array items closed => closed && allWellFormed items
  | object members closed => closed && allMembersWellFormed members
  | broken => false
  | _ => true

def allWellFormed : List Tree → Bool
  | [] => true
  | item :: rest => item.isWellFormed && allWellFormed rest

def allMembersWellFormed : List (Option String × Tree) → Bool
  | [] => true
  | (_, value) :: rest => value.isWellFormed && allMembersWellFormed rest

end

mutual

/-- Whether all of a value can be held: it is well formed, its strings have contents, its numbers are in
range, and lists and records are nested at most `depth` deep. -/
def isHeldWithin (depth : Nat) : Tree → Bool
  | number literal => literal.value?.isSome
  | string content => content.isSome
  | array items closed =>
    match depth with
    | 0 => false
    | depth + 1 => closed && allHeldWithin depth items
  | object members closed =>
    match depth with
    | 0 => false
    | depth + 1 => closed && allMembersHeldWithin depth members
  | broken => false
  | _ => true

/-- Whether all items can be held. -/
def allHeldWithin (depth : Nat) : List Tree → Bool
  | [] => true
  | item :: rest => item.isHeldWithin depth && allHeldWithin depth rest

def allMembersHeldWithin (depth : Nat) : List (Option String × Tree) → Bool
  | [] => true
  | (key, value) :: rest => key.isSome && value.isHeldWithin depth && allMembersHeldWithin depth rest

end

end Tree

end Passbook.Json

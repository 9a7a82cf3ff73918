import Passbook.Text.CaseTable
import Passbook.Text.Ranges
/-!
# Lower case

The lower case form of a text over all of Unicode.  Two letters are special: a capital sigma that ends
a word becomes a final sigma, and a capital I with a dot above keeps its dot as a combining mark.
-/

namespace Passbook.Text

def isCased (c : Char) : Bool := inRanges casedRanges c

/-- Whether a character is looked through when the neighbours of a letter are asked for. -/
def isCaseIgnorable (c : Char) : Bool := inRanges caseIgnorableRanges c

def capitalSigma : Char := 'Σ'

/-- Whether the nearest character that counts is a letter with case. -/
def nextIsCased (cs : List Char) : Bool :=
  match cs.dropWhile isCaseIgnorable with
  | c :: _ => isCased c
  | [] => false

/-- The lower case form of one character that is no capital sigma. -/
def lowerChar (c : Char) : List Char :=
  if c = 'İ' then
    ['i', '\u0307']
  else
    match lowerRuns.findSome? (·.lower? c.toNat) with
    | some code => [Char.ofNat code]
    | none => [c]

/-- The lower case form of the rest of a text, with the characters in front of it nearest first. -/
def lowerFrom (before : List Char) : List Char → List Char
  | [] => []
  | c :: rest =>
    let lowered :=
      if c = capitalSigma then
        if nextIsCased before && !nextIsCased rest then ['ς'] else ['σ']
      else
        lowerChar c
    lowered ++ lowerFrom (c :: before) rest

def toLower (s : String) : String :=
  String.ofList (lowerFrom [] s.toList)

/-- The lower case form of a text in which only ASCII letters have case. -/
def toAsciiLower (s : String) : String :=
  String.ofList (s.toList.map Char.toLower)

example : toLower "ΑΣ ΒΣ ΣΑ İ" = "ας βς σα i\u0307" := by decide +kernel

end Passbook.Text

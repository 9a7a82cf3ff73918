import Passbook.Net.Domain.Folding
import Passbook.Net.Domain.Punycode
import Passbook.Text.Composition
import Passbook.Text.Direction
import Passbook.Text.Joining
/-!
# Labels of domain names

A domain name is made up of labels with points in between.  A label that begins with `xn--` stands for a
text in Punycode.  The text of a label begins with no mark, has joiners only where they change how letters
are written, and runs in one direction if there is a label in the name that runs from right to left.
-/

namespace Passbook.Net.Domain

open Text (Direction direction)

/-! ### Form -/

/-- A text in the form in which names are compared, if its characters can stand in a name. -/
def fold? (cs : List Char) : Option (List Char) :=
  (cs.mapM foldChar).map fun forms => Text.composed forms.flatten

def isAscii (c : Char) : Bool := c.toNat < 0x80

def punycodeMark : List Char := "xn--".toList

/-- The text of a label.  Punycode stands only for a text that needs it and has the form in which names are
compared. -/
def labelText? (label : List Char) : Option (List Char) :=
  if label.take punycodeMark.length = punycodeMark then
    if label.all isAscii then
      (Punycode.decode? (label.drop punycodeMark.length)).filter fun text =>
        fold? text == some text && !text.all isAscii
    else
      none
  else
    some label

/-! ### Joiners -/

/-- Whether a joiner that follows these characters, nearest first, shapes a consonant without vowel. -/
def followsVirama (before : List Char) : Bool :=
  before.head?.any (Text.combiningClass · == Text.viramaClass)

/-- Whether a letter and the next one are joined, the characters in front nearest first. -/
def areJoined (before behind : List Char) : Bool :=
  (before.dropWhile Text.isJoinTransparent).head?.any Text.joinsBehind
    && (behind.dropWhile Text.isJoinTransparent).head?.any Text.joinsBefore

/-- Whether the joiners in the rest of a text stand where they may, the characters in front nearest
first. -/
def joinersFit (before : List Char) : List Char → Bool
  | [] => true
  | c :: rest =>
    (if c = joiner then followsVirama before
      else if c = nonJoiner then followsVirama before || areJoined before rest
      else true)
    && joinersFit (c :: before) rest

/-! ### Direction -/

/-- Whether there is a character in a text that runs from right to left. -/
def runsRightToLeft (text : List Char) : Bool :=
  text.any fun c => direction c == .rightToLeft || direction c == .arabicNumber

/-- The direction of the last character that is no mark. -/
def lastDirection? (directions : List Direction) : Option Direction :=
  (directions.reverse.dropWhile (· == .mark)).head?

/-- Whether a text runs in one direction.  It is told by the first character; figures end a text of either
direction, but one from right to left has those of one kind only. -/
def hasOneDirection (text : List Char) : Bool :=
  let directions := text.map direction
  match directions.head? with
  | none => true
  | some .leftToRight =>
    directions.all (fun d => d != .rightToLeft && d != .arabicNumber)
      && (lastDirection? directions).any fun d => d == .leftToRight || d == .europeanNumber
  | some .rightToLeft =>
    directions.all (· != .leftToRight)
      && (lastDirection? directions).any (fun d => d != .neutral)
      && !(directions.contains .europeanNumber && directions.contains .arabicNumber)
  | some _ => false

/-! ### Names -/

/-- Whether a character of ASCII cannot stand in a name. -/
def isDenied (c : Char) : Bool :=
  c.toNat ≤ 0x20 || c.toNat == 0x7f || "%#/:<>?@[\\]^|".toList.contains c

/-- Whether the text of a label may stand in a name. -/
def isLabelText (text : List Char) : Bool := !text.head?.any Text.isMark && joinersFit [] text

/-- The labels of a name in the form in which names are compared.  There are none if the name is not well
formed. -/
def labels? (name : List Char) : Option (List (List Char)) := do
  let folded ← fold? name
  let labels := folded.splitOn '.'
  let texts ← labels.mapM labelText?
  let isOrdered := !texts.any runsRightToLeft || texts.all hasOneDirection
  if !folded.any isDenied && texts.all isLabelText && isOrdered then some labels else none

example : labels? "Books.EXAMPLE".toList = some ["books".toList, "example".toList] := by
  decide +kernel

example : labels? "xn--a".toList = none := by decide +kernel

end Passbook.Net.Domain

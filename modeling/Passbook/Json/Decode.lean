import Passbook.Json.Tree
import Passbook.Text.Utf8
/-!
# Reading values from trees

A reader of a kind of value either finds one or reports the first problem that it meets in the order of
the text: the text is not JSON there, or it is, but not of the shape that is expected.
-/

namespace Passbook.Json

-- Powers are those of natural numbers and integers, whatever else is in scope.
attribute [local instance (2000)] instPowNat

/-- Why a text holds no value of some kind. -/
inductive Problem where
  /-- The text is not JSON, or a number or a string in it cannot be held. -/
  | malformed
  /-- The value is of another shape. -/
  | mistyped
deriving DecidableEq, Repr

/-- Readers of a kind of value. -/
abbrev Reader (α : Type) := Tree → Except Problem α

namespace Tree

/-- The problem with a value that stands where another shape is expected.  Lists and records are not
looked into. -/
def misplaced : Tree → Problem
  | number literal => if literal.value?.isSome then .mistyped else .malformed
  | string content => if content.isSome then .mistyped else .malformed
  | broken => .malformed
  | _ => .mistyped

/-- Read a signed integer of 64 bits, written without fraction and exponent. -/
def readInteger : Reader Int
  | number literal =>
    match literal.value? with
    | some (.integer n) => if -2 ^ (63 : Nat) ≤ n ∧ n < 2 ^ (63 : Nat) then .ok n else .error .mistyped
    | some (.double _ _) => .error .mistyped
    | none => .error .malformed
  | other => .error other.misplaced

def readText : Reader String
  | string (some s) => .ok s
  | other => .error other.misplaced

/-- Read a text that has a meaning of its own. -/
def readTextAs {α : Type} (parse : String → Option α) : Reader α := fun tree => do
  match parse (← tree.readText) with
  | some a => .ok a
  | none => .error .mistyped

/-- Read a value or `null`. -/
def readOptional {α : Type} (read : Reader α) : Reader (Option α)
  | null => .ok none
  | other => some <$> read other

end Tree

/-! ### Records

A record is read into a draft, field by field.  It may be written with names, in any order, or as the
list of all its values in order of declaration. -/

/-- A field of a record: its name, and how its value goes into the draft. -/
structure Field (δ : Type) where
  name : String
  read : Tree → δ → Except Problem δ

/-- A field whose value is put into the draft by `put`. -/
def Field.of {δ α : Type} (name : String) (read : Reader α) (put : α → δ → δ) : Field δ :=
  ⟨name, fun tree draft => do return put (← read tree) draft⟩

/-- How a record is read: from an empty draft, through its fields, to the record.  A draft in which a
required field is missing makes no record. -/
structure Shape (δ α : Type) where
  empty : δ
  fields : List (Field δ)
  build : δ → Option α

/-- Read the members of a record.  Members with unknown names are skipped; of the known names each may
occur once. -/
def readNamed {δ : Type} (fields : List (Field δ)) (seen : List String) :
    List (Option String × Tree) → δ → Except Problem δ
  | [], draft => .ok draft
  | (none, _) :: _, _ => .error .malformed
  | (some key, value) :: rest, draft =>
    match fields.find? (·.name == key) with
    | some field =>
      if key ∈ seen then .error .mistyped
      else do readNamed fields (key :: seen) rest (← field.read value draft)
    | none => if value.isWellFormed then readNamed fields seen rest draft else .error .malformed

/-- Read the items of a record in order of declaration.  There have to be exactly as many as fields. -/
def readPositional {δ : Type} (closed : Bool) : List (Field δ) → List Tree → δ → Except Problem δ
  | [], [], draft => if closed then .ok draft else .error .malformed
  | [], _ :: _, _ => .error .malformed
  | _ :: _, [], _ => .error (if closed then .mistyped else .malformed)
  | field :: fields, item :: rest, draft => do
    readPositional closed fields rest (← field.read item draft)

def Shape.read {δ α : Type} (shape : Shape δ α) : Reader α := fun tree => do
  let draft ←
    match tree with
    | .object members closed => do
      let draft ← readNamed shape.fields [] members shape.empty
      if closed then .ok draft else .error .malformed
    | .array items closed => readPositional closed shape.fields items shape.empty
    | other => .error other.misplaced
  match shape.build draft with
  | some a => .ok a
  | none => .error .mistyped

/-- Read the value that bytes begin with.  What comes behind it does not count. -/
def readFront {α : Type} (read : Reader α) (bytes : List UInt8) : Except Problem α :=
  read (treeOfSigns (Text.utf8Signs bytes)).1

/-- Read the value that is all of a text but for blanks. -/
def readAll {α : Type} (read : Reader α) (text : String) : Except Problem α := do
  let (tree, rest) := treeOf text.toList
  let a ← read tree
  if rest = [] then .ok a else .error .malformed

end Passbook.Json

/-!
# Reading UTF-8

A list of bytes is divided into the characters that it encodes and the shortest sequences that encode
none.  Read strictly, the first such sequence is an error; read leniently, a replacement character
stands for each.
-/

namespace Passbook.Text

/-- What stands at some place in a list of bytes. -/
inductive Utf8Piece where
  | char (c : Char)
  /-- A number of bytes that begin a character in the right way, or one byte that cannot begin one. -/
  | invalid (start length : Nat)
  /-- The beginning of a character at the end of the list. -/
  | incomplete (start : Nat)
deriving DecidableEq, Repr

/-- The range of the bytes that continue a character. -/
def tailRange : Nat × Nat := (0x80, 0xBF)

/-- The ranges of the bytes that have to follow the first byte of a character, and what the first byte
contributes to the code point. -/
def utf8Lead? (byte : Nat) : Option (List (Nat × Nat) × Nat) :=
  if byte < 0x80 then some ([], byte)
  else if byte < 0xC2 then none
  else if byte < 0xE0 then some ([tailRange], byte - 0xC0)
  else if byte = 0xE0 then some ([(0xA0, 0xBF), tailRange], 0)
  else if byte = 0xED then some ([(0x80, 0x9F), tailRange], 0xD)
  else if byte < 0xF0 then some ([tailRange, tailRange], byte - 0xE0)
  else if byte = 0xF0 then some ([(0x90, 0xBF), tailRange, tailRange], 0)
  else if byte < 0xF4 then some ([tailRange, tailRange, tailRange], byte - 0xF0)
  else if byte = 0xF4 then some ([(0x80, 0x8F), tailRange, tailRange], 4)
  else none

/-- A character of which some bytes have been read: how many, what they contribute to the code point, and
the range of the next byte and those behind it. -/
structure Utf8Open where
  taken : Nat
  code : Nat
  next : Nat × Nat
  later : List (Nat × Nat)

/-- Read the first byte of a character at an index. -/
def utf8Begin (index byte : Nat) : Option Utf8Open × List Utf8Piece :=
  match utf8Lead? byte with
  | none => (none, [.invalid index 1])
  | some ([], code) => (none, [.char (Char.ofNat code)])
  | some (next :: later, code) => (some ⟨1, code, next, later⟩, [])

/-- Read a byte at an index. -/
def utf8Step (index byte : Nat) : Option Utf8Open → Option Utf8Open × List Utf8Piece
  | none => utf8Begin index byte
  | some ⟨taken, code, next, later⟩ =>
    if next.1 ≤ byte ∧ byte ≤ next.2 then
      let code := code * 64 + byte % 64
      match later with
      | [] => (none, [.char (Char.ofNat code)])
      | next :: later => (some ⟨taken + 1, code, next, later⟩, [])
    else
      let (opened, pieces) := utf8Begin index byte
      (opened, .invalid (index - taken) taken :: pieces)

/-- The pieces of a list of bytes that begins at an index. -/
def utf8Pieces (index : Nat) (opened : Option Utf8Open) : List Nat → List Utf8Piece
  | [] =>
    match opened with
    | none => []
    | some o => [.incomplete (index - o.taken)]
  | byte :: rest =>
    let (opened, pieces) := utf8Step index byte opened
    pieces ++ utf8Pieces (index + 1) opened rest

/-- The character of a piece, if it is one. -/
def Utf8Piece.char? : Utf8Piece → Option Char
  | .char c => some c
  | _ => none

/-- The characters that bytes encode, each with its place among the sequences that encode none. -/
def utf8Signs (bytes : List UInt8) : List (Option Char) :=
  (utf8Pieces 0 none (bytes.map (·.toNat))).map Utf8Piece.char?

/-- Why a piece is no character. -/
def Utf8Piece.problem? : Utf8Piece → Option String
  | .char _ => none
  | .invalid start length => some s!"invalid utf-8 sequence of {length} bytes from index {start}"
  | .incomplete start => some s!"incomplete utf-8 byte sequence from index {start}"

/-- The character of a piece, or the one in place of it. -/
def Utf8Piece.shown : Utf8Piece → Char
  | .char c => c
  | _ => '\ufffd'

def decodeUtf8 (bytes : List Nat) : Except String String :=
  let pieces := utf8Pieces 0 none bytes
  match pieces.findSome? Utf8Piece.problem? with
  | some problem => .error problem
  | none => .ok (String.ofList (pieces.map Utf8Piece.shown))

/-- Read bytes as a text, with replacements. -/
def decodeUtf8Lossy (bytes : List Nat) : String :=
  String.ofList ((utf8Pieces 0 none bytes).map Utf8Piece.shown)

def encodeUtf8 (cs : List Char) : List Nat :=
  (String.ofList cs).toUTF8.toList.map (·.toNat)

example : (decodeUtf8 [0x61, 0xE2, 0x82, 0xAC]).toOption = some "a€" := by decide +kernel

example : decodeUtf8Lossy [0xE2, 0x82, 0x61, 0xFF] = "\ufffda\ufffd" := by decide +kernel

end Passbook.Text

/-!
# Reading positions

A reader moves over the text with a cursor: what is left of the text, and the line and column that
it has reached.  Lines are counted from one; the column is the number of bytes since the last
newline.  A fault is reported either where the cursor stands, or one byte further when the byte that
it stands before is the one that is wrong.
-/

namespace SampleTypes.Json

/-- A place in a text. -/
structure Position where
  line : Nat
  column : Nat
deriving DecidableEq, Repr

/-- What can be wrong with a JSON text. -/
inductive Fault where
  | endInList
  | endInObject
  | endInString
  | endInValue
  | expectedColon
  | expectedListSeparator
  | expectedObjectSeparator
  | expectedWord
  | expectedValue
  | invalidEscape
  | invalidNumber
  | numberOutOfRange
  | controlCharacter
  | keyNotString
  | loneSurrogate
  | trailingComma
  | trailingCharacters
  | unpairedSurrogate
  | tooDeep
deriving DecidableEq, Repr

/-- The wording of a fault. -/
def Fault.message : Fault → String
  | .endInList => "EOF while parsing a list"
  | .endInObject => "EOF while parsing an object"
  | .endInString => "EOF while parsing a string"
  | .endInValue => "EOF while parsing a value"
  | .expectedColon => "expected `:`"
  | .expectedListSeparator => "expected `,` or `]`"
  | .expectedObjectSeparator => "expected `,` or `\x7d`"
  | .expectedWord => "expected ident"
  | .expectedValue => "expected value"
  | .invalidEscape => "invalid escape"
  | .invalidNumber => "invalid number"
  | .numberOutOfRange => "number out of range"
  | .controlCharacter => "control character (\\u0000-\\u001F) found while parsing a string"
  | .keyNotString => "key must be a string"
  | .loneSurrogate => "lone leading surrogate in hex escape"
  | .trailingComma => "trailing comma"
  | .trailingCharacters => "trailing characters"
  | .unpairedSurrogate => "unexpected end of hex escape"
  | .tooDeep => "recursion limit exceeded"

/-- A message followed by the place that it is about. -/
def Position.locate (p : Position) (message : String) : String :=
  message ++ " at line " ++ toString p.line ++ " column " ++ toString p.column

/-- A fault and where it was found. -/
structure ReadError where
  fault : Fault
  position : Position
deriving DecidableEq, Repr

/-- The text of a read error. -/
def ReadError.message (e : ReadError) : String :=
  e.position.locate e.fault.message

/-- What is left of a text, and the place that was reached. -/
structure Cursor where
  rest : List Char
  line : Nat
  column : Nat
deriving DecidableEq, Repr

namespace Cursor

/-- The cursor before the first character of a text. -/
def start (text : String) : Cursor :=
  ⟨text.toList, 1, 0⟩

/-- Where the cursor stands. -/
def position (c : Cursor) : Position :=
  ⟨c.line, c.column⟩

/-- Past the given character, with `rest` left. -/
def past (c : Cursor) (ch : Char) (rest : List Char) : Cursor :=
  if ch = '\n' then ⟨rest, c.line + 1, 0⟩ else ⟨rest, c.line, c.column + ch.utf8Size⟩

/-- Past the next character; the end of the text stays where it is. -/
def advance (c : Cursor) : Cursor :=
  match c.rest with
  | [] => c
  | ch :: rest => c.past ch rest

/-- One byte further than the cursor, or the cursor's own place at the end of the text. -/
def nextBytePosition (c : Cursor) : Position :=
  match c.rest with
  | [] => c.position
  | '\n' :: _ => ⟨c.line + 1, 0⟩
  | _ :: _ => ⟨c.line, c.column + 1⟩

/-- A fault in what was read up to the cursor. -/
def fail {α : Type} (c : Cursor) (fault : Fault) : Except ReadError α :=
  .error ⟨fault, c.position⟩

/-- A fault in the byte that comes next. -/
def failNext {α : Type} (c : Cursor) (fault : Fault) : Except ReadError α :=
  .error ⟨fault, c.nextBytePosition⟩

/-- Past as many characters as the list has. -/
def pastAll (c : Cursor) : List Char → Cursor
  | [] => c
  | _ :: more => c.advance.pastAll more

/-- Past the characters that satisfy `p`, up to the first that does not. -/
def skipWhile (p : Char → Bool) (c : Cursor) : Cursor :=
  c.pastAll (c.rest.takeWhile p)

/-- The end of the text. -/
def atEnd (c : Cursor) : Cursor :=
  c.pastAll c.rest

/-- The four characters that may stand between the parts of a JSON text. -/
def isSeparatingBlank (c : Char) : Bool :=
  c == ' ' || c == '\t' || c == '\n' || c == '\r'

/-- Past blanks. -/
def skipBlanks (c : Cursor) : Cursor :=
  c.skipWhile isSeparatingBlank

/--
A number of bytes further.  The characters that fit are passed; when the count ends inside a
character, only the column moves.
-/
def pastBytes (c : Cursor) : Nat → Cursor
  | 0 => c
  | n + 1 =>
    match c.rest with
    | [] => c
    | ch :: rest =>
      if ch.utf8Size ≤ n + 1 then (c.past ch rest).pastBytes (n + 1 - ch.utf8Size)
      else ⟨c.rest, c.line, c.column + (n + 1)⟩
termination_by n => n
decreasing_by
  have := ch.utf8Size_pos
  omega

@[simp] theorem rest_past (c : Cursor) (ch : Char) (rest : List Char) :
    (c.past ch rest).rest = rest := by
  unfold past
  split <;> rfl

@[simp] theorem rest_advance (c : Cursor) : c.advance.rest = c.rest.tail := by
  unfold advance
  split <;> simp_all

@[simp] theorem rest_pastAll (c : Cursor) (read : List Char) :
    (c.pastAll read).rest = c.rest.drop read.length := by
  induction read generalizing c with
  | nil => rfl
  | cons ch more ih => simp [pastAll, ih]

theorem rest_skipWhile (p : Char → Bool) (c : Cursor) :
    (c.skipWhile p).rest = c.rest.dropWhile p := by
  rw [skipWhile, rest_pastAll]
  induction c.rest with
  | nil => rfl
  | cons ch more ih => by_cases h : p ch <;> simp [h, ih]

end Cursor

end SampleTypes.Json

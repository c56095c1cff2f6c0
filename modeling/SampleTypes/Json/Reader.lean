import SampleTypes.Json.Literal

/-!
# Reading a document

A document is one value between blanks.  Arrays and objects may be nested at most 127 deep.  An
object keeps each key at its first place with its last value.
-/

namespace SampleTypes.Json

/-- One more than the number of arrays and objects that may be open at once. -/
def maxDepth : Nat := 128

/-- Past the colon between a key and its value. -/
def readColon (c : Cursor) : Reader Cursor :=
  let c := c.skipBlanks
  match c.rest with
  | ':' :: _ => .ok c.advance
  | [] => c.fail .endInObject
  | _ :: _ => c.failNext .expectedColon

/--
Reads the opening of an array's next element: none at the closing bracket.  `first` says that no
element was read yet.
-/
def readElementStart (first : Bool) (c : Cursor) : Reader (Option Cursor) :=
  let c := c.skipBlanks
  match c.rest with
  | [] => c.fail .endInList
  | ']' :: _ => .ok none
  | ch :: _ =>
    if first then .ok (some c)
    else if ch ≠ ',' then c.failNext .expectedListSeparator
    else
      let c := c.advance.skipBlanks
      match c.rest with
      | [] => c.fail .endInValue
      | ']' :: _ => c.failNext .trailingComma
      | _ :: _ => .ok (some c)

/-- Reads up to the opening quote of an object's next key: none at the closing brace. -/
def readKeyStart (first : Bool) (c : Cursor) : Reader (Option Cursor) :=
  let c := c.skipBlanks
  match c.rest with
  | [] => c.fail .endInObject
  | '\x7d' :: _ => .ok none
  | ch :: _ =>
    if first then
      if ch = '"' then .ok (some c) else c.failNext .keyNotString
    else if ch ≠ ',' then c.failNext .expectedObjectSeparator
    else
      let c := c.advance.skipBlanks
      match c.rest with
      | [] => c.fail .endInValue
      | '"' :: _ => .ok (some c)
      | '\x7d' :: _ => c.failNext .trailingComma
      | _ :: _ => c.failNext .keyNotString

mutual

/--
Reads a value.  `fuel` bounds the steps, `depth` the nesting.  The elements of an array and the
members of an object are read one after the other.
-/
def readValue : Nat → Nat → Cursor → Reader (Value × Cursor)
  | 0, _, c => c.fail .endInValue
  | fuel + 1, depth, c =>
    let c := c.skipBlanks
    match c.rest with
    | [] => c.fail .endInValue
    | 'n' :: _ => do .ok (.null, ← readWord ['u', 'l', 'l'] c.advance)
    | 't' :: _ => do .ok (.bool true, ← readWord ['r', 'u', 'e'] c.advance)
    | 'f' :: _ => do .ok (.bool false, ← readWord ['a', 'l', 's', 'e'] c.advance)
    | '"' :: _ => do
      let (s, c) ← readString c
      .ok (.string s, c)
    | '[' :: _ =>
      if depth ≤ 1 then c.failNext .tooDeep
      else do
        let (elements, c) ← readElements fuel (depth - 1) true c.advance
        .ok (.array elements, c)
    | '\x7b' :: _ =>
      if depth ≤ 1 then c.failNext .tooDeep
      else do
        let (members, c) ← readMembers fuel (depth - 1) [] true c.advance
        .ok (.object members, c)
    | '-' :: _ => do
      let (n, c) ← readNumber true c.advance
      .ok (.number n, c)
    | ch :: _ =>
      if ch.isDigit then do
        let (n, c) ← readNumber false c
        .ok (.number n, c)
      else c.failNext .expectedValue

/-- Reads the elements of an array up to its closing bracket. -/
def readElements : Nat → Nat → Bool → Cursor → Reader (List Value × Cursor)
  | 0, _, _, c => c.fail .endInList
  | fuel + 1, depth, first, c => do
    match ← readElementStart first c with
    | none => .ok ([], c.skipBlanks.advance)
    | some c =>
      let (element, c) ← readValue fuel depth c
      let (more, c) ← readElements fuel depth false c
      .ok (element :: more, c)

/-- Reads the members of an object up to its closing brace, after those already read. -/
def readMembers :
    Nat → Nat → List (String × Value) → Bool → Cursor → Reader (List (String × Value) × Cursor)
  | 0, _, _, _, c => c.fail .endInObject
  | fuel + 1, depth, members, first, c => do
    match ← readKeyStart first c with
    | none => .ok (members, c.skipBlanks.advance)
    | some c =>
      let (key, c) ← readString c
      let c ← readColon c
      let (value, c) ← readValue fuel depth c
      readMembers fuel depth (assign key value members) false c

end

/-- Steps that are enough for a text: two for each of its characters and two more. -/
def stepBound (c : Cursor) : Nat :=
  2 * c.rest.length + 2

/-- Nothing but blanks may follow a document. -/
def readEnd (c : Cursor) : Reader Unit :=
  let c := c.skipBlanks
  if c.rest.isEmpty then .ok () else c.failNext .trailingCharacters

/-- Reads a whole text as one document. -/
def parse (text : String) : Reader Value := do
  let c := Cursor.start text
  let (value, c) ← readValue (stepBound c) maxDepth c
  readEnd c
  .ok value

end SampleTypes.Json

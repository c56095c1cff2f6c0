import SampleTypes.Json.Cursor
import SampleTypes.Json.Value

/-!
# Words, strings and numbers

The readers of the parts of a JSON text that hold no other values.  Each takes a cursor and returns
what it read with the cursor after it.
-/

namespace SampleTypes.Json

/-- A result, or the fault that was met.  Results are paired with the cursor after what was read. -/
abbrev Reader := Except ReadError

/-- Reads exactly the given characters. -/
def readWord : List Char → Cursor → Reader Cursor
  | [], c => .ok c
  | expected :: more, c =>
    match c.rest with
    | [] => c.fail .endInValue
    | ch :: _ => if ch = expected then readWord more c.advance else c.failNext .expectedWord

/-! ### Strings -/

/-- The value of a hexadecimal digit. -/
def hexDigit? (c : Char) : Option Nat :=
  if c.isDigit then some (c.toNat - '0'.toNat)
  else if 'a' ≤ c ∧ c ≤ 'f' then some (c.toNat - 'a'.toNat + 10)
  else if 'A' ≤ c ∧ c ≤ 'F' then some (c.toNat - 'A'.toNat + 10)
  else none

/-- The number that the first four characters spell in base sixteen. -/
def hexQuad? : List Char → Option Nat
  | a :: b :: c :: d :: _ => do
    return ((← hexDigit? a) * 16 + (← hexDigit? b)) * 256 + (← hexDigit? c) * 16 + (← hexDigit? d)
  | _ => none

/-- Reads the four digits after `\u`.  The text ends early when fewer than four bytes are left. -/
def readHexQuad (c : Cursor) : Reader (Nat × Cursor) :=
  let bytes := (c.rest.take 4).foldl (fun n ch => n + ch.utf8Size) 0
  if bytes < 4 then c.atEnd.fail .endInString
  else
    match hexQuad? c.rest with
    | some n => .ok (n, c.pastBytes 4)
    | none => (c.pastBytes 4).fail .invalidEscape

/-- Reads one given character in the middle of a surrogate pair. -/
def readPairMark (mark : Char) (c : Cursor) : Reader Cursor :=
  match c.rest with
  | [] => c.fail .endInString
  | ch :: _ => if ch = mark then .ok c.advance else c.failNext .unpairedSurrogate

/-- Reads what follows `\u`: a code unit, or a pair of surrogates for one character. -/
def readCodePoint (c : Cursor) : Reader (Char × Cursor) := do
  let (unit, c) ← readHexQuad c
  if 0xDC00 ≤ unit ∧ unit ≤ 0xDFFF then c.fail .loneSurrogate
  else if 0xD800 ≤ unit ∧ unit ≤ 0xDBFF then
    let c ← readPairMark '\\' c
    let c ← readPairMark 'u' c
    let (low, c) ← readHexQuad c
    if 0xDC00 ≤ low ∧ low ≤ 0xDFFF then
      .ok (Char.ofNat ((unit - 0xD800) * 0x400 + (low - 0xDC00) + 0x10000), c)
    else c.fail .loneSurrogate
  else .ok (Char.ofNat unit, c)

/-- The character that a letter stands for after a backslash. -/
def shortEscape? : Char → Option Char
  | '"' => some '"'
  | '\\' => some '\\'
  | '/' => some '/'
  | 'b' => some '\x08'
  | 'f' => some '\x0c'
  | 'n' => some '\n'
  | 'r' => some '\r'
  | 't' => some '\t'
  | _ => none

/-- Reads what follows a backslash. -/
def readEscape (c : Cursor) : Reader (Char × Cursor) :=
  match c.rest with
  | [] => c.fail .endInString
  | ch :: _ =>
    match shortEscape? ch with
    | some meant => .ok (meant, c.advance)
    | none => if ch = 'u' then readCodePoint c.advance else c.failNext .invalidEscape

/-- Reads the characters of a string up to its closing quote; `fuel` bounds their number. -/
def readCharacters : Nat → Cursor → Reader (List Char × Cursor)
  | 0, c => c.fail .endInString
  | fuel + 1, c =>
    match c.rest with
    | [] => c.fail .endInString
    | ch :: _ =>
      if ch = '"' then .ok ([], c.advance)
      else if ch.toNat < 0x20 then c.advance.fail .controlCharacter
      else do
        let (ch, c) ← if ch = '\\' then readEscape c.advance else .ok (ch, c.advance)
        let (more, c) ← readCharacters fuel c
        .ok (ch :: more, c)

/-- Reads a string whose opening quote comes next. -/
def readString (c : Cursor) : Reader (String × Cursor) := do
  let (chars, c) ← readCharacters c.rest.length c.advance
  .ok (String.ofList chars, c)

/-! ### Numbers -/

/-- The largest significand of a literal, and the largest unsigned integer. -/
def maxSignificand : Nat := Nat.pow 2 64 - 1

/-- The largest exponent that is told apart from larger ones. -/
def maxExponent : Nat := Nat.pow 2 31 - 1

/-- The value of a decimal digit. -/
def digitValue (c : Char) : Nat := c.toNat - '0'.toNat

/--
Appends digits to a number as long as the result stays within the limit: the result, and how many
digits were taken.
-/
def appendDigits (limit : Nat) : Nat → List Char → Nat × Nat
  | n, [] => (n, 0)
  | n, d :: ds =>
    if n * 10 + digitValue d ≤ limit then
      let (m, taken) := appendDigits limit (n * 10 + digitValue d) ds
      (m, taken + 1)
    else (n, 0)

/-- A power of ten as a float, at most `10 ^ 308`. -/
def powerOfTen (n : Nat) : Float :=
  Float.ofScientific 1 false n

/-- Divides by a power of ten, in steps of `10 ^ 308` while that leaves something. -/
def divideByPower (x : Float) (n : Nat) : Float :=
  if n ≤ 308 then x / powerOfTen n
  else if x == 0 then x
  else divideByPower (x / powerOfTen 308) (n - 308)
termination_by n

/-- The float `significand * 10 ^ exponent`; none if it would be infinite. -/
def scaledFloat? (significand : Nat) (exponent : Int) : Option Float :=
  let x := significand.toUInt64.toFloat
  if exponent < 0 then some (divideByPower x exponent.natAbs)
  else if exponent ≤ 308 then
    let y := x * powerOfTen exponent.toNat
    if y.isInf then none else some y
  else if x == 0 then some x
  else none

/-- The float that a literal stands for, read up to the cursor. -/
def readFloat (negative : Bool) (significand : Nat) (exponent : Int) (c : Cursor) :
    Reader (Number × Cursor) :=
  match scaledFloat? significand exponent with
  | some x => .ok (.float (if negative then -x else x), c)
  | none => c.fail .numberOutOfRange

/-- The decimal digits that come next. -/
def nextDigits (c : Cursor) : List Char :=
  c.rest.takeWhile Char.isDigit

/-- Reads an exponent whose letter comes next. -/
def readExponent (negative : Bool) (significand : Nat) (exponent : Int) (c : Cursor) :
    Reader (Number × Cursor) :=
  let c := c.advance
  let down := c.rest.head? == some '-'
  let c := if down ∨ c.rest.head? = some '+' then c.advance else c
  let digits := nextDigits c
  match c.rest, digits with
  | [], _ => c.fail .endInValue
  | _, [] => c.failNext .invalidNumber
  | _, _ =>
    let (power, taken) := appendDigits maxExponent 0 digits
    let after := c.pastAll digits
    if taken = digits.length then
      readFloat negative significand (if down then exponent - power else exponent + power) after
    else if significand ≠ 0 ∧ !down then
      (c.pastAll (digits.take (taken + 1))).fail .numberOutOfRange
    else .ok (.float (if negative then -0.0 else 0.0), after)

/-- The letter of an exponent comes next. -/
def atExponent (c : Cursor) : Bool :=
  c.rest.head? == some 'e' || c.rest.head? == some 'E'

/-- Reads a fraction whose point comes next. -/
def readFraction (negative : Bool) (significand : Nat) (exponent : Int) (c : Cursor) :
    Reader (Number × Cursor) :=
  let c := c.advance
  let digits := nextDigits c
  match c.rest, digits with
  | [], _ => c.fail .endInValue
  | _, [] => c.failNext .invalidNumber
  | _, _ =>
    let (significand, taken) := appendDigits maxSignificand significand digits
    let after := c.pastAll digits
    if atExponent after then readExponent negative significand (exponent - taken) after
    else readFloat negative significand (exponent - taken) after

/-- An integer literal: minus zero, and what is below the signed range, is a float. -/
def integerNumber (negative : Bool) (magnitude : Nat) : Number :=
  if !negative then .integer magnitude
  else if magnitude = 0 ∨ Nat.pow 2 63 < magnitude then .float (-magnitude.toUInt64.toFloat)
  else .integer (-(magnitude : Int))

/--
Reads a number, its sign already read.  Digits that no longer fit the significand only count for
the exponent, and such a literal is a float.
-/
def readNumber (negative : Bool) (c : Cursor) : Reader (Number × Cursor) :=
  match c.rest, nextDigits c with
  | [], _ => c.fail .endInValue
  | _, [] => c.failNext .invalidNumber
  | _, digits =>
    if digits.head? = some '0' ∧ 1 < digits.length then c.advance.failNext .invalidNumber
    else
      let (significand, taken) := appendDigits maxSignificand 0 digits
      let exponent : Int := digits.length - taken
      let after := c.pastAll digits
      if after.rest.head? = some '.' then readFraction negative significand exponent after
      else if atExponent after then readExponent negative significand exponent after
      else if taken = digits.length then .ok (integerNumber negative significand, after)
      else readFloat negative significand exponent after

end SampleTypes.Json

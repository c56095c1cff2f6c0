import SampleTypes.Decimal.Shortest
import SampleTypes.Json.Value

/-!
# Printing values

A value as text over several lines: two blanks of indentation for each level, one member or element
on a line, and empty objects and arrays closed at once.
-/

namespace SampleTypes.Json

/-- A character inside a string. -/
def printChar (c : Char) : List Char :=
  if c = '"' then ['\\', '"']
  else if c = '\\' then ['\\', '\\']
  else if c = '\x08' then ['\\', 'b']
  else if c = '\x0c' then ['\\', 'f']
  else if c = '\n' then ['\\', 'n']
  else if c = '\r' then ['\\', 'r']
  else if c = '\t' then ['\\', 't']
  else if c.toNat < 0x20 then
    let digits := Nat.toDigits 16 c.toNat
    '\\' :: 'u' :: List.replicate (4 - digits.length) '0' ++ digits
  else [c]

/-- A string with its quotes. -/
def printString (s : String) : String :=
  String.ofList ('"' :: s.toList.flatMap printChar ++ ['"'])

/-- A number. -/
def printNumber : Number → String
  | .integer n => toString n
  | .float x => Decimal.floatText x

/-- The blanks before a line of a level. -/
def margin (level : Nat) : String :=
  String.ofList (List.replicate (2 * level) ' ')

/-- Items between brackets, each on a line of the level below. -/
def bracketed (opening closing : String) (level : Nat) (items : List String) : String :=
  if items.isEmpty then opening ++ closing
  else
    opening ++ "\n" ++ ",\n".intercalate (items.map fun item => margin (level + 1) ++ item)
      ++ "\n" ++ margin level ++ closing

mutual

/-- The text of a value that starts on a line of the given level. -/
def print (level : Nat) : Value → String
  | .null => "null"
  | .bool true => "true"
  | .bool false => "false"
  | .number n => printNumber n
  | .string s => printString s
  | .array elements => bracketed "[" "]" level (printElements (level + 1) elements)
  | .object members => bracketed "\x7b" "\x7d" level (printMembers (level + 1) members)

/-- The texts of elements. -/
def printElements (level : Nat) : List Value → List String
  | [] => []
  | v :: vs => print level v :: printElements level vs

/-- The texts of members. -/
def printMembers (level : Nat) : List (String × Value) → List String
  | [] => []
  | (key, v) :: members => (printString key ++ ": " ++ print level v) :: printMembers level members

end

end SampleTypes.Json

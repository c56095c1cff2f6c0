import SampleTypes.Text.Printable

/-!
# Quoted text

A text between double quotes, on one line and in printable characters only: the quote and the
backslash get a backslash, four control characters have a letter or digit of their own, and every
other character that cannot be shown on its own is written as its code point in braces.
-/

namespace SampleTypes.Text

/-- The digits of a number in base sixteen, small letters, none leading zero. -/
def hexDigits (n : Nat) : List Char :=
  Nat.toDigits 16 n

/-- How one character stands inside quoted text. -/
def escape (c : Char) : List Char :=
  if c = '"' then ['\\', '"']
  else if c = '\\' then ['\\', '\\']
  else if c = '\x00' then ['\\', '0']
  else if c = '\t' then ['\\', 't']
  else if c = '\r' then ['\\', 'r']
  else if c = '\n' then ['\\', 'n']
  else if isPrintable c then [c]
  else '\\' :: 'u' :: '\x7b' :: hexDigits c.toNat ++ ['\x7d']

/-- A text in double quotes, with every character in its escaped form. -/
def quoted (s : String) : String :=
  String.ofList ('"' :: s.toList.flatMap escape ++ ['"'])

end SampleTypes.Text

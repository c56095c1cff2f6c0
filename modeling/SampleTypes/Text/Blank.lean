import SampleTypes.Text.CodeRange

/-!
# Blank characters

The Unicode property `White_Space`, and the removal of blanks at both ends of a text.
-/

namespace SampleTypes.Text

/-- Code points with the property `White_Space`. -/
def blankRanges : List CodeRange :=
  [(0x9, 0xD), (0x20, 0x20), (0x85, 0x85), (0xA0, 0xA0), (0x1680, 0x1680), (0x2000, 0x200A),
   (0x2028, 0x2029), (0x202F, 0x202F), (0x205F, 0x205F), (0x3000, 0x3000)]

/-- A blank: a character with the property `White_Space`. -/
def isBlank (c : Char) : Bool :=
  inRanges blankRanges c.toNat

/-- The text without the blanks at its two ends. -/
def trim (s : String) : String :=
  String.ofList ((((s.toList.dropWhile isBlank).reverse).dropWhile isBlank).reverse)

/-- Every character of the text is blank. -/
def isBlankLine (s : String) : Bool :=
  s.toList.all isBlank

end SampleTypes.Text

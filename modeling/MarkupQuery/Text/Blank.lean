import MarkupQuery.Text.Ranges

namespace MarkupQuery.Text

/-!
# Blank characters and trimming

A character is blank when it has the `White_Space` property: the ASCII controls from tab to
carriage return, the spaces of every width, the no-break spaces and the line and paragraph
separators. The zero-width space U+200B is not among them.
-/

/-- The code points with the `White_Space` property. -/
def blankRanges : List CodeRange :=
  [(0x09, 0x0D), (0x20, 0x20), (0x85, 0x85), (0xA0, 0xA0), (0x1680, 0x1680), (0x2000, 0x200A),
    (0x2028, 0x2029), (0x202F, 0x202F), (0x205F, 0x205F), (0x3000, 0x3000)]

/-- Whether a character has the `White_Space` property. -/
def isBlank (c : Char) : Bool :=
  covers blankRanges c

/-- Drop the blank characters at the start. -/
def trimStart (text : List Char) : List Char :=
  text.dropWhile isBlank

/-- Drop the blank characters at the end. -/
def trimEnd (text : List Char) : List Char :=
  (text.reverse.dropWhile isBlank).reverse

/-- Drop the blank characters at both ends. -/
def trim (text : List Char) : List Char :=
  trimEnd (trimStart text)

/-- Whether a text holds blank characters only; the empty text does. -/
def isBlankText (text : String) : Bool :=
  text.toList.all isBlank

end MarkupQuery.Text

namespace MarkupQuery.Text

/-!
# ASCII classes and case folding

Markup names fold case over the twenty-six ASCII letters only, and token lists such as `class`
are separated by the five ASCII whitespace characters. Letters outside ASCII are never folded,
and other kinds of space never separate tokens.
-/

/-- The five ASCII whitespace characters: space, tab, line feed, form feed, carriage return. -/
def isSpace (c : Char) : Bool :=
  c == ' ' || c == '\t' || c == '\n' || c == '\x0C' || c == '\r'

/-- Fold the ASCII letters of a name to lower case and keep every other character. -/
def lowercase (name : String) : String :=
  name.map Char.toLower

/-- The maximal runs of characters other than ASCII whitespace, in order. -/
def tokens (value : String) : List String :=
  ((value.toList.splitOnP isSpace).filter fun piece => !piece.isEmpty).map String.ofList

end MarkupQuery.Text

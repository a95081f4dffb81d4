import MarkupQuery.Selector.Segment
import MarkupQuery.Text.Blank

namespace MarkupQuery.Selector

/-!
# Printing selectors

A branch is printed as selector text that reads back as the same segments. An attribute value
stands between double quotes; one that holds a double quote stands between single quotes; one that
holds both can only have been written bare and is printed bare.
-/

/-- A tag test as selector text. -/
def TagTest.text : TagTest → String
  | .universal => "*"
  | .named tag => tag

/-- The quote that an attribute value is printed between, empty for a bare value. -/
def quoteMark (value : String) : String :=
  if '"' ∈ value.toList then
    if '\'' ∈ value.toList then "" else "'"
  else
    "\""

/-- An attribute test as selector text, brackets included. -/
def AttributeTest.text (test : AttributeTest) : String :=
  match test.comparison with
  | none => "[" ++ test.name ++ "]"
  | some (operator, value) =>
      "[" ++ test.name ++ operator.symbol ++ quoteMark value ++ value ++ quoteMark value ++ "]"

/-- A pseudo-class as selector text, colon included. -/
def Pseudo.text (pseudo : Pseudo) : String :=
  match pseudo.argument with
  | none => ":" ++ pseudo.kind.name
  | some argument => ":" ++ pseudo.kind.name ++ "(" ++ argument ++ ")"

/-- The tests of a segment as selector text, without its combinator. -/
def Segment.text (segment : Segment) : String :=
  (segment.tag.map TagTest.text).getD "" ++
    (segment.id.map fun id => "#" ++ id).getD "" ++
    String.join (segment.classes.map fun className => "." ++ className) ++
    String.join (segment.attributes.map AttributeTest.text) ++
    (segment.pseudo.map Pseudo.text).getD ""

/-- A segment with its combinator before it. -/
def Segment.textAfterCombinator (segment : Segment) : String :=
  segment.combinator.glyph ++ segment.text

/--
A branch as selector text. A leading descendant combinator goes without saying, and the blank
before any other leading combinator is not printed either.
-/
def Branch.text (branch : Branch) : String :=
  match branch with
  | [] => ""
  | first :: rest =>
      let start :=
        if first.combinator = .descendant then first.text else first.textAfterCombinator
      let whole := start ++ String.join (rest.map Segment.textAfterCombinator)
      String.ofList (Text.trimStart whole.toList)

end MarkupQuery.Selector

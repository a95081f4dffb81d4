namespace MarkupQuery.Selector

/-!
# Selector segments

A selector is a comma-separated list of branches, and a branch is a list of segments. A segment
holds the tests that one element has to pass and the combinator that says where, seen from the
element before, it has to stand: `ul > li.done` is the segment `ul` followed by the segment
`li.done` with the child combinator.
-/

/-- Where an element stands, seen from the element matched before it. -/
inductive Combinator where
  /-- Anywhere below it. -/
  | descendant
  /-- Directly below it. -/
  | child
  /-- The first element after it under the same parent. -/
  | adjacent
  /-- Any element after it under the same parent. -/
  | sibling
  deriving Repr, DecidableEq, Inhabited

namespace Combinator

/-- The combinator written by a single character; the descendant combinator has none. -/
def ofGlyph? : Char → Option Combinator
  | '>' => some .child
  | '+' => some .adjacent
  | '~' => some .sibling
  | _ => none

/-- The combinator as it is printed between two segments. -/
def glyph : Combinator → String
  | .descendant => " "
  | .child => " > "
  | .adjacent => " + "
  | .sibling => " ~ "

end Combinator

/-- A test on the tag: any element, or elements of one name. -/
inductive TagTest where
  | universal
  | named (tag : String)
  deriving Repr, DecidableEq

/-- How the values of an attribute are compared with the value that a selector asks for. -/
inductive AttributeOperator where
  | equals
  | startsWith
  | endsWith
  | contains
  deriving Repr, DecidableEq

/-- Whether a list occurs in another as a contiguous piece. -/
def occursIn (piece : List Char) : List Char → Bool
  | [] => piece.isEmpty
  | c :: text => piece.isPrefixOf (c :: text) || occursIn piece text

namespace AttributeOperator

/-- The operator as it is written in a selector. -/
def symbol : AttributeOperator → String
  | .equals => "="
  | .startsWith => "^="
  | .endsWith => "$="
  | .contains => "*="

/-- Whether one value of an attribute passes; letters have to agree in case. -/
def test
    (operator : AttributeOperator)
    (actual expected : String) :
    Bool :=
  match operator with
  | .equals => actual == expected
  | .startsWith => expected.toList.isPrefixOf actual.toList
  | .endsWith => expected.toList.isSuffixOf actual.toList
  | .contains => occursIn expected.toList actual.toList

end AttributeOperator

/-- A test on an attribute: that it is present, or that some value of it compares. -/
structure AttributeTest where
  name : String
  comparison : Option (AttributeOperator × String) := none
  deriving Repr, DecidableEq

/-- The positional pseudo-classes. -/
inductive PseudoKind where
  | firstChild
  | lastChild
  | nthChild
  deriving Repr, DecidableEq

/-- The name of a pseudo-class, without its colon. -/
def PseudoKind.name : PseudoKind → String
  | .firstChild => "first-child"
  | .lastChild => "last-child"
  | .nthChild => "nth-child"

/-- A positional pseudo-class with the argument written in its parentheses, if there are any. -/
structure Pseudo where
  kind : PseudoKind
  argument : Option String := none
  deriving Repr, DecidableEq

/-- The tests on one element, and how it is reached from the one before. -/
structure Segment where
  combinator : Combinator := .descendant
  tag : Option TagTest := none
  id : Option String := none
  classes : List String := []
  attributes : List AttributeTest := []
  pseudo : Option Pseudo := none
  deriving Repr, DecidableEq

/-- Whether a segment tests nothing. Its combinator does not count. -/
def Segment.isEmpty (segment : Segment) : Bool :=
  segment.tag.isNone && segment.id.isNone && segment.classes.isEmpty &&
    segment.attributes.isEmpty && segment.pseudo.isNone

/-- One branch of a selector: the segments from the outermost to the one that is selected. -/
abbrev Branch := List Segment

end MarkupQuery.Selector

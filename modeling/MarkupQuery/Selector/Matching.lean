import MarkupQuery.Selector.Nth
import MarkupQuery.Selector.Segment
import MarkupQuery.Tree.Traversal

namespace MarkupQuery.Selector

/-!
# Testing one element

A segment accepts a node when the node is an element and passes every test of the segment. Tags
and attribute names are compared as they are stored, in lower case; ids, classes and attribute
values are compared letter for letter. The pseudo-class comes last, so it warns about its argument
only for elements that pass everything else.
-/

/-- Whether an element has the tag. -/
def TagTest.accepts (test : TagTest) (element : Element) : Bool :=
  match test with
  | .universal => true
  | .named tag => element.tag == tag

/-- Whether some value of an element's `id` attribute is the id. -/
def acceptsId (id : String) (element : Element) : Bool :=
  element.id?.any fun values => values.contains id

/-- Whether all classes are among the values of an element's `class` attribute. -/
def acceptsClasses (classes : List String) (element : Element) : Bool :=
  classes.all fun className => element.classes.contains className

/-- Whether an element has the attribute, with some value that compares. -/
def AttributeTest.accepts (test : AttributeTest) (element : Element) : Bool :=
  (element.attributes.get? test.name).any fun values =>
    match test.comparison with
    | none => true
    | some (operator, expected) => values.any fun actual => operator.test actual expected

/-- The argument of a pseudo-class, empty if none is written. -/
def Pseudo.argumentText (pseudo : Pseudo) : String :=
  pseudo.argument.getD ""

/-- Whether a place among the elements under one parent is accepted. -/
def Pseudo.acceptsPlace (pseudo : Pseudo) (place : Tree.Place) : Bool :=
  match pseudo.kind with
  | .firstChild => place.position == 1
  | .lastChild => place.position == place.count
  | .nthChild => (NthPosition.ofArgument pseudo.argumentText).accepts place.position

/-- Whether a node stands at an accepted place. A node without a parent stands at none. -/
def Pseudo.accepts (pseudo : Pseudo) (tree : Tree) (node : NodeId) : Bool :=
  (tree.place? node).any pseudo.acceptsPlace

namespace Segment

/-- Whether an element passes every test but the pseudo-class. -/
def acceptsElement (segment : Segment) (element : Element) : Bool :=
  segment.tag.all (fun test => test.accepts element) &&
    segment.id.all (fun id => acceptsId id element) &&
    acceptsClasses segment.classes element &&
    segment.attributes.all fun test => test.accepts element

/-- Whether a node is an element that passes every test. -/
def accepts (segment : Segment) (tree : Tree) (node : NodeId) : Bool :=
  (tree.element? node).any segment.acceptsElement &&
    segment.pseudo.all fun pseudo => pseudo.accepts tree node

/-- What testing a node warns about: an `nth-child` argument that accepts no position. -/
def warnings (segment : Segment) (tree : Tree) (node : NodeId) : List Warning :=
  if (tree.element? node).any segment.acceptsElement && (tree.place? node).isSome then
    match segment.pseudo with
    | some pseudo =>
        match pseudo.kind with
        | .nthChild => NthPosition.warnings pseudo.argumentText
        | _ => []
    | none => []
  else
    []

end Segment

end MarkupQuery.Selector

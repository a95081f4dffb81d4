namespace MarkupQuery.Html

/-!
# Markup as it is read

Reading markup gives a tree of what stands in it, with everything that may stand there: comments,
declarations and instructions as well as elements and text. A template keeps its contents apart
from its children.
-/

/-- A piece of markup with everything inside of it. -/
inductive Markup where
  | document (children : List Markup)
  | element
      (name : String)
      (attributes : List (String × String))
      (children : List Markup)
      (contents : List Markup)
  | text (content : String)
  | comment
  | doctype
  | instruction
  deriving Repr

end MarkupQuery.Html

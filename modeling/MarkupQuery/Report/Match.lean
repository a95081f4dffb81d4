import MarkupQuery.Html.Render
import MarkupQuery.Report.Json

namespace MarkupQuery.Report

/-!
# Reporting matches

The elements that were found are reported as markup, or as records of their tag, their attributes
and a path. The path of an element names every element on the way down to it with its position
among its siblings; it is a selector that leads to that element again.
-/

/-- How matches are reported. -/
inductive MatchFormat where
  | pretty
  | minified
  | json
  deriving Repr, DecidableEq

/-- The format of a name. -/
def MatchFormat.ofName? : String → Option MatchFormat
  | "pretty" => some .pretty
  | "minified" => some .minified
  | "json" => some .json
  | _ => none

/-- The step of a path to one element. The document has none. -/
def pathStep? (tree : Tree) (id : NodeId) : Option String :=
  match tree.tag? id, tree.place? id with
  | some tag, some place => some (tag ++ ":nth-child(" ++ toString place.position ++ ")")
  | _, _ => none

/-- The path from the document to an element. -/
def elementPath (tree : Tree) (id : NodeId) : String :=
  " > ".intercalate ((id :: tree.ancestors id).filterMap (pathStep? tree)).reverse

/-- The attributes of an element by name, the values of each joined by spaces. -/
def sortedAttributes (attributes : Attributes) : List (String × String) :=
  (attributes.entries.map fun entry => (entry.1, " ".intercalate entry.2)).mergeSort
    fun first second => first.1 ≤ second.1

/-- The record of an element. -/
def elementRecord? (tree : Tree) (id : NodeId) : Option Json :=
  (tree.element? id).map fun element =>
    .object [
      ("tag", .string element.tag),
      ("attributes",
        .object ((sortedAttributes element.attributes).map fun pair => (pair.1, .string pair.2))),
      ("path", .string (elementPath tree id))]

/-- Nodes as they are reported. -/
def matchesText (format : MatchFormat) (tree : Tree) (ids : List NodeId) : String :=
  match format with
  | .pretty => String.join (ids.map (Html.render .standard tree))
  | .minified => String.join (ids.map fun id => Html.render .minified tree id ++ "\n")
  | .json => (Json.array (ids.filterMap (elementRecord? tree))).documentText

end MarkupQuery.Report

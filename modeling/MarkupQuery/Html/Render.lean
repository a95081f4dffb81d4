import MarkupQuery.Html.Elements
import MarkupQuery.Html.Escape
import MarkupQuery.Tree.Traversal

namespace MarkupQuery.Html

/-!
# Rendering

A node is rendered as a list of pieces, each with its depth: an element with children gives a
piece that opens it, the pieces of its children one level deeper and a piece that closes it; any
other element, a text and raw markup give one piece; the document gives the pieces of its
children. The layout then decides how pieces are written: one after the other, or each on a line
of its own, indented by its depth.
-/

/-- Whether an element is written as a start tag alone. -/
def isVoid (element : Element) : Bool :=
  voidElements.contains element.tag

/-- An attribute as it is written after a space; an empty value is left out. -/
def attributeText (entry : String × List String) : String :=
  let value := " ".intercalate entry.2
  if value.isEmpty then
    " " ++ entry.1
  else
    " " ++ entry.1 ++ "=\"" ++ escape .attributeValue value ++ "\""

/-- The start tag of an element. -/
def startTag (element : Element) : String :=
  "<" ++ element.tag ++ String.join (element.attributes.entries.map attributeText) ++ ">"

/-- The end tag of an element. -/
def endTag (element : Element) : String :=
  "</" ++ element.tag ++ ">"

/-- The start tag of an element with the element's own text after it. -/
def opening (element : Element) : String :=
  startTag element ++ escape .betweenTags (element.text.getD "")

/-- A part of the output that is never broken, and how deep in the markup it stands. -/
structure Piece where
  depth : Nat
  content : String
  deriving Repr, DecidableEq

/-- The pieces of a node that stands at a depth, at most `levels` levels of nodes. -/
def piecesAt (tree : Tree) : (levels : Nat) → (depth : Nat) → NodeId → List Piece
  | 0, _, _ => []
  | levels + 1, depth, id =>
      match tree.kind? id with
      | none => []
      | some .document =>
          (tree.children id).flatMap (piecesAt tree levels depth)
      | some (.text content) =>
          [{ depth := depth, content := escape .betweenTags content }]
      | some (.raw content) =>
          [{ depth := depth, content := content }]
      | some (.element element) =>
          if isVoid element then
            [{ depth := depth, content := startTag element }]
          else if (tree.children id).isEmpty then
            [{ depth := depth, content := opening element ++ endTag element }]
          else
            { depth := depth, content := opening element } ::
              (tree.children id).flatMap (piecesAt tree levels (depth + 1)) ++
                [{ depth := depth, content := endTag element }]

/-- The pieces of a node and of everything below it. -/
def pieces (tree : Tree) (id : NodeId) : List Piece :=
  piecesAt tree tree.size 0 id

/-- How pieces are written. -/
inductive Layout where
  /-- One after the other. -/
  | minified
  /-- Each on a line of its own, with `indent` spaces for each level of depth. -/
  | pretty (indent : Nat)
  deriving Repr, DecidableEq

/-- The layout that is asked for by whether lines are broken and by the spaces for each level. -/
def Layout.ofOptions (isPretty : Bool) (indent : Nat) : Layout :=
  if isPretty then .pretty indent else .minified

/-- The layout with one piece a line and two spaces a level. -/
def Layout.standard : Layout := .pretty 2

/-- One piece as it is written. -/
def Layout.write (layout : Layout) (piece : Piece) : String :=
  match layout with
  | .minified => piece.content
  | .pretty indent =>
      String.ofList (List.replicate (piece.depth * indent) ' ') ++ piece.content ++ "\n"

/-- A node and everything below it as markup. An unknown node gives nothing. -/
def render (layout : Layout) (tree : Tree) (id : NodeId) : String :=
  String.join ((pieces tree id).map layout.write)

end MarkupQuery.Html

import MarkupQuery.Tree.Basic

namespace MarkupQuery.Tree

/-!
# Walking along the links

Ancestors and siblings are chains of links, descendants are the children with what is below each
of them in turn. Links never lead in a circle, so no chain and no descent takes more steps than
the tree has nodes; that number bounds the recursion.
-/

/-- The nodes reached by taking a link over and over, at most `steps` times. -/
def chain
    (link? : NodeId → Option NodeId) :
    (steps : Nat) → NodeId → List NodeId
  | 0, _ => []
  | steps + 1, id =>
      match link? id with
      | none => []
      | some next => next :: chain link? steps next

/-- The ancestors of a node, its parent first. -/
def ancestors (tree : Tree) (id : NodeId) : List NodeId :=
  chain tree.parent? tree.size id

/-- The siblings after a node, the nearest first. -/
def followingSiblings (tree : Tree) (id : NodeId) : List NodeId :=
  chain tree.nextSibling? tree.size id

/-- The siblings before a node, the nearest first. -/
def precedingSiblings (tree : Tree) (id : NodeId) : List NodeId :=
  chain tree.previousSibling? tree.size id

/-- The nodes at most `depth` levels below a node, each before what is below it. -/
def below (tree : Tree) : (depth : Nat) → NodeId → List NodeId
  | 0, _ => []
  | depth + 1, id => (tree.children id).flatMap fun child => child :: below tree depth child

/-- All nodes below a node in document order: a node, then what is below it. -/
def descendants (tree : Tree) (id : NodeId) : List NodeId :=
  tree.below tree.size id

/-- Whether the second node is among the ancestors of the first. -/
def isDescendantOf (tree : Tree) (id ancestor : NodeId) : Bool :=
  (tree.ancestors id).contains ancestor

/-- The nearest sibling after a node that is an element. -/
def nextElementSibling? (tree : Tree) (id : NodeId) : Option NodeId :=
  (tree.followingSiblings id).find? tree.isElement

/-- The text of a node itself: a text node's content or an element's own text. -/
def ownText (tree : Tree) (id : NodeId) : String :=
  match tree.kind? id with
  | some (.text content) => content
  | some (.element element) => element.text.getD ""
  | _ => ""

/-- The text of a node and of everything below it, in document order. -/
def textContent (tree : Tree) (id : NodeId) : String :=
  String.join ((id :: tree.descendants id).map tree.ownText)

/-- The place of a child among its parent's elements, counted from one, and their number. -/
structure Place where
  position : Nat
  count : Nat
  deriving Repr, DecidableEq

/-- The place of a node among the elements under its parent, if it has a parent and is one. -/
def place? (tree : Tree) (id : NodeId) : Option Place :=
  (tree.parent? id).bind fun parent =>
    let siblings := tree.elementChildren parent
    (siblings.idxOf? id).map fun index =>
      { position := index + 1, count := siblings.length }

end MarkupQuery.Tree

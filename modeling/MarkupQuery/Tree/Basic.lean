import MarkupQuery.Tree.Attributes

namespace MarkupQuery

/-!
# Markup trees

A tree keeps its nodes in an arena: a node is named by its index, which never changes, and links
to other nodes by their names. Links are stored three times over, as the parent of a node, as the
list of its children and as its neighbours among them. Looking at an index that the arena does not
hold is harmless: such a node has no kind, no parent, no children and no neighbours.
-/

/-- The name of a node: its index in the arena. -/
abbrev NodeId := Nat

/-- A tag in lower case with its attributes and, possibly, a text before the children. -/
structure Element where
  tag : String
  attributes : Attributes := .empty
  text : Option String := none
  deriving Repr, DecidableEq

/-- An element of a name, which is folded to lower case. -/
def Element.named (name : String) : Element :=
  { tag := Text.lowercase name }

/-- What a node stands for. -/
inductive NodeKind where
  | document
  | element (element : Element)
  /-- Text that is escaped when it is rendered. -/
  | text (content : String)
  /-- Markup that is rendered as it stands. -/
  | raw (content : String)
  deriving Repr, DecidableEq

/-- A node with its links. -/
structure Node where
  kind : NodeKind
  parent : Option NodeId := none
  children : List NodeId := []
  previous : Option NodeId := none
  next : Option NodeId := none
  deriving Repr, DecidableEq

/-- The nodes by index. -/
structure Tree where
  nodes : Array Node
  deriving Repr, DecidableEq

namespace Tree

/-- The document node, the first of every tree. -/
def root : NodeId := 0

/-- A tree of nothing but its document node. -/
def empty : Tree :=
  { nodes := #[{ kind := .document }] }

/-- The number of nodes, attached or not. -/
def size (tree : Tree) : Nat :=
  tree.nodes.size

/-- Whether there is not even a document node. -/
def isEmpty (tree : Tree) : Bool :=
  tree.nodes.isEmpty

/-- The node of a name. -/
def get? (tree : Tree) (id : NodeId) : Option Node :=
  tree.nodes[id]?

/-- The kind of a node. -/
def kind? (tree : Tree) (id : NodeId) : Option NodeKind :=
  (tree.get? id).map Node.kind

/-- The node that a node is a child of. -/
def parent? (tree : Tree) (id : NodeId) : Option NodeId :=
  (tree.get? id).bind Node.parent

/-- The children of a node in order. -/
def children (tree : Tree) (id : NodeId) : List NodeId :=
  ((tree.get? id).map Node.children).getD []

/-- The child before this one under the same parent. -/
def previousSibling? (tree : Tree) (id : NodeId) : Option NodeId :=
  (tree.get? id).bind Node.previous

/-- The child after this one under the same parent. -/
def nextSibling? (tree : Tree) (id : NodeId) : Option NodeId :=
  (tree.get? id).bind Node.next

/-- The element that a node stands for, if it is one. -/
def element? (tree : Tree) (id : NodeId) : Option Element :=
  match tree.kind? id with
  | some (.element element) => some element
  | _ => none

/-- Whether a node is an element. -/
def isElement (tree : Tree) (id : NodeId) : Bool :=
  (tree.element? id).isSome

/-- The content of a text node. Raw markup is not text. -/
def text? (tree : Tree) (id : NodeId) : Option String :=
  match tree.kind? id with
  | some (.text content) => some content
  | _ => none

/-- The tag of an element. -/
def tag? (tree : Tree) (id : NodeId) : Option String :=
  (tree.element? id).map Element.tag

/-- The attributes of an element. -/
def attributes? (tree : Tree) (id : NodeId) : Option Attributes :=
  (tree.element? id).map Element.attributes

/-- The children that are elements, in order. -/
def elementChildren (tree : Tree) (id : NodeId) : List NodeId :=
  (tree.children id).filter tree.isElement

end Tree

/-- The values of an element's `id` attribute. -/
def Element.id? (element : Element) : Option (List String) :=
  element.attributes.get? "id"

/-- The values of an element's `class` attribute, none if it has no such attribute. -/
def Element.classes (element : Element) : List String :=
  (element.attributes.get? "class").getD []

end MarkupQuery

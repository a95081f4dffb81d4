import MarkupQuery.Tree.Traversal

namespace MarkupQuery.Tree

/-!
# Changing a tree

Nodes are added to the arena without a parent and then appended to one. Appending a node that has
a parent moves it there with everything below it. An append that would put a node below itself, or
that names a node the arena does not hold, changes nothing.
-/

/-- Change one node in place; an unknown name changes nothing. -/
def update (tree : Tree) (id : NodeId) (change : Node → Node) : Tree :=
  { nodes := tree.nodes.modify id change }

/-- Change the element that a node stands for; other nodes stay as they are. -/
def updateElement
    (tree : Tree)
    (id : NodeId)
    (change : Element → Element) :
    Tree :=
  tree.update id fun node =>
    match node.kind with
    | .element element => { node with kind := .element (change element) }
    | _ => node

/-- Add a node without a parent. Its name is the old size of the tree. -/
def add (tree : Tree) (kind : NodeKind) : Tree :=
  { nodes := tree.nodes.push { kind := kind } }

/-- Set the link to the next sibling of a node, if there is such a node. -/
def setNext (tree : Tree) (id next : Option NodeId) : Tree :=
  match id with
  | none => tree
  | some id => tree.update id fun node => { node with next := next }

/-- Set the link to the previous sibling of a node, if there is such a node. -/
def setPrevious (tree : Tree) (id previous : Option NodeId) : Tree :=
  match id with
  | none => tree
  | some id => tree.update id fun node => { node with previous := previous }

/-- Take a node out of its parent's children and join its neighbours. -/
def detach (tree : Tree) (id : NodeId) : Tree :=
  match tree.parent? id with
  | none => tree
  | some parent =>
      let previous := tree.previousSibling? id
      let next := tree.nextSibling? id
      let alone :=
        tree.update id fun node => { node with parent := none, previous := none, next := none }
      let joined := (alone.setNext previous next).setPrevious next previous
      joined.update parent fun node =>
        { node with children := node.children.filter fun child => child != id }

/-- Put a node that has no parent after the children of another. -/
def attach (tree : Tree) (parent child : NodeId) : Tree :=
  let last := (tree.children parent).getLast?
  let listed :=
    tree.update parent fun node => { node with children := node.children ++ [child] }
  let owned := listed.update child fun node => { node with parent := some parent }
  match last with
  | none => owned
  | some last => (owned.setNext last child).setPrevious child last

/-- Whether an append is carried out: both nodes exist, the child not at or above the parent. -/
def canAppend (tree : Tree) (parent child : NodeId) : Bool :=
  parent < tree.size && child < tree.size && child != parent &&
    !tree.isDescendantOf parent child

/-- Make a node the last child of another, wherever it was before. -/
def append (tree : Tree) (parent child : NodeId) : Tree :=
  if tree.canAppend parent child then
    (tree.detach child).attach parent child
  else
    tree

/-- Add a node and append it. Its name is the old size of the tree. -/
def addChild (tree : Tree) (parent : NodeId) (kind : NodeKind) : Tree :=
  (tree.add kind).append parent tree.size

/-- Add an element with its own text and attributes, and append it. -/
def addElement
    (tree : Tree)
    (parent : NodeId)
    (name : String)
    (text : Option String)
    (attributes : List (String × String)) :
    Tree :=
  tree.addChild parent (.element {
    tag := Text.lowercase name
    attributes := Attributes.empty.setAll attributes
    text := text
  })

end MarkupQuery.Tree

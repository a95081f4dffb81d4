import MarkupQuery.Selector.Matching
import MarkupQuery.Selector.Plan

namespace MarkupQuery.Selector

/-!
# Searching a tree

A branch is followed from a node by taking its segments one by one: the combinator says which
nodes may come next and the segment's tests say which of them do. Each way to get through the
whole branch leads to a node; a node found in several ways is counted once, at the place where it
was found first. A selector list finds what its branches find, in the order of the branches.
-/

/-- The elements that stand where a combinator asks, seen from a node, in document order. -/
def Combinator.targets
    (combinator : Combinator)
    (tree : Tree)
    (context : NodeId) :
    List NodeId :=
  match combinator with
  | .descendant => (tree.descendants context).filter tree.isElement
  | .child => tree.elementChildren context
  | .adjacent =>
      if (tree.parent? context).isSome then
        (tree.nextElementSibling? context).toList
      else
        []
  | .sibling =>
      if (tree.parent? context).isSome then
        (tree.followingSiblings context).filter tree.isElement
      else
        []

/-- Nodes in order of discovery, each of them once. -/
structure Found where
  nodes : List NodeId := []
  deriving Repr, DecidableEq

namespace Found

/-- Nothing found yet. -/
def empty : Found := {}

/-- Whether a node was found before. -/
def contains (found : Found) (node : NodeId) : Bool :=
  found.nodes.contains node

/-- Take note of a node, unless it was found before. -/
def insert (found : Found) (node : NodeId) : Found :=
  if found.contains node then found else { nodes := found.nodes ++ [node] }

/-- Take note of several nodes in order. -/
def insertAll (found : Found) (nodes : List NodeId) : Found :=
  nodes.foldl insert found

/-- The number of nodes found. -/
def size (found : Found) : Nat :=
  found.nodes.length

/-- Whether nothing was found. -/
def isEmpty (found : Found) : Bool :=
  found.nodes.isEmpty

end Found

/-- The elements of a list up to and including the first that passes. -/
def upToFirst {α : Type} (passes : α → Bool) : List α → List α
  | [] => []
  | item :: items => if passes item then [item] else item :: upToFirst passes items

namespace Branch

/-- The nodes to which the ways through a branch lead, one for each way, depth first. -/
def reached (tree : Tree) : Branch → NodeId → List NodeId
  | [], context => [context]
  | segment :: rest, context =>
      (segment.combinator.targets tree context).flatMap fun node =>
        if segment.accepts tree node then reached tree rest node else []

/-- The first node to which a way through a branch leads; the search ends there. -/
def first? (tree : Tree) : Branch → NodeId → Option NodeId
  | [], context => some context
  | segment :: rest, context =>
      (segment.combinator.targets tree context).findSome? fun node =>
        if segment.accepts tree node then first? tree rest node else none

/-- What following all ways through a branch warns about, in the order of the tests. -/
def reachedWarnings (tree : Tree) : Branch → NodeId → List Warning
  | [], _ => []
  | segment :: rest, context =>
      (segment.combinator.targets tree context).flatMap fun node =>
        segment.warnings tree node ++
          if segment.accepts tree node then reachedWarnings tree rest node else []

/-- What the search for the first node warns about. Nodes after a successful one are not tested. -/
def firstWarnings (tree : Tree) : Branch → NodeId → List Warning
  | [], _ => []
  | segment :: rest, context =>
      let succeeds := fun node =>
        segment.accepts tree node && (first? tree rest node).isSome
      (upToFirst succeeds (segment.combinator.targets tree context)).flatMap fun node =>
        segment.warnings tree node ++
          if segment.accepts tree node then firstWarnings tree rest node else []

/-- The nodes that a branch finds from a node, each once. -/
def walk (branch : Branch) (tree : Tree) (context : NodeId) : List NodeId :=
  (Found.empty.insertAll (branch.reached tree context)).nodes

end Branch

namespace Plan

/-- The nodes that the branches find from a node, each once. -/
def select (plan : Plan) (tree : Tree) (context : NodeId) : List NodeId :=
  (plan.foldl
    (fun (found : Found) (branch : Branch) => found.insertAll (branch.reached tree context))
    .empty).nodes

/-- The first node that a branch finds, the branches taken in order. -/
def selectFirst (plan : Plan) (tree : Tree) (context : NodeId) : Option NodeId :=
  plan.findSome? fun branch => Branch.first? tree branch context

/-- What selecting all nodes warns about. -/
def selectWarnings (plan : Plan) (tree : Tree) (context : NodeId) : List Warning :=
  plan.flatMap fun branch => Branch.reachedWarnings tree branch context

/-- What selecting the first node warns about. Branches after a successful one are not followed. -/
def selectFirstWarnings
    (plan : Plan)
    (tree : Tree)
    (context : NodeId) :
    List Warning :=
  (upToFirst (fun branch => (Branch.first? tree branch context).isSome) plan).flatMap
    fun branch => Branch.firstWarnings tree branch context

end Plan

end MarkupQuery.Selector

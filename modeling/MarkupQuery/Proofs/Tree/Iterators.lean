import MarkupQuery.Proofs.Tree.Ancestry
import MarkupQuery.Proofs.Tree.DocumentOrder

namespace MarkupQuery.Tree

/-!
# Walks one node at a time

An iterator gives one node at a time and keeps what it has still to visit: along a link the next
node, downwards a stack of nodes. No bound on the number of steps is built into these loops. In
every tree that edits build they end by themselves, having given what the bounded walks list.
-/

/-- From a state on, an iterator gives the items of a list one after the other and then ends. -/
inductive Yields
    {State Item : Type}
    (next? : State → Option (Item × State)) :
    State → List Item → Prop where
  | ended
      {state : State} :
      next? state = none →
      Yields next? state []
  | item
      {state later : State}
      {item : Item}
      {items : List Item} :
      next? state = some (item, later) →
      Yields next? later items →
      Yields next? state (item :: items)

/-- Give the current node, if there is one, and take a link from it. -/
def takeLink?
    (link? : NodeId → Option NodeId)
    (current : Option NodeId) :
    Option (NodeId × Option NodeId) :=
  current.map fun id => (id, link? id)

/-- Give the node on top of a stack, the first of the list, and put its children in its place. -/
def visitTop? (tree : Tree) : (stack : List NodeId) → Option (NodeId × List NodeId)
  | [] => none
  | id :: waiting => some (id, tree.children id ++ waiting)

/-- Nodes listed in pre-order: each of them, then everything below it, then the next. -/
inductive PreOrder (tree : Tree) : (nodes listed : List NodeId) → Prop where
  | nil :
      PreOrder tree [] []
  | cons
      {id : NodeId}
      {ids below after : List NodeId} :
      PreOrder tree (tree.children id) below →
      PreOrder tree ids after →
      PreOrder tree (id :: ids) (id :: (below ++ after))

section Links

variable {link? : NodeId → Option NodeId}

/-- Where a bounded walk ends before its bound, the iterator along the link ends there as well. -/
theorem yields_chain
    {steps : Nat}
    {id : NodeId}
    (ended : (chain link? steps id).length < steps) :
    Yields (takeLink? link?) (link? id) (chain link? steps id) := by
  induction steps generalizing id with
  | zero =>
      simp at ended
  | succ steps inductionHypothesis =>
      cases link : link? id with
      | none =>
          rw [chain, link]
          exact .ended rfl
      | some next =>
          rw [chain_of_link link] at ended ⊢
          have restEnded : (chain link? steps next).length < steps := by
            simpa using ended
          exact .item rfl (inductionHypothesis restEnded)

end Links

section Listings

variable {tree : Tree}

/-- There is at most one listing in pre-order. -/
theorem PreOrder.unique
    {ids first second : List NodeId}
    (firstListing : tree.PreOrder ids first)
    (secondListing : tree.PreOrder ids second) :
    first = second := by
  induction firstListing generalizing second with
  | nil =>
      cases secondListing
      rfl
  | cons _ _ belowHypothesis afterHypothesis =>
      cases secondListing with
      | cons below after =>
          rw [belowHypothesis below, afterHypothesis after]

/-- With the nodes to list on top of it, a stack gives their listing before anything else. -/
theorem PreOrder.yields_append
    {ids listed : List NodeId}
    (listing : tree.PreOrder ids listed)
    {waiting later : List NodeId}
    (rest : Yields tree.visitTop? waiting later) :
    Yields tree.visitTop? (ids ++ waiting) (listed ++ later) := by
  induction listing generalizing waiting later with
  | nil =>
      exact rest
  | cons _ _ belowHypothesis afterHypothesis =>
      rw [List.cons_append, List.cons_append, List.append_assoc]
      exact .item rfl (belowHypothesis (afterHypothesis rest))

theorem PreOrder.yields
    {ids listed : List NodeId}
    (listing : tree.PreOrder ids listed) :
    Yields tree.visitTop? ids listed := by
  have nothing : Yields tree.visitTop? [] [] := .ended rfl
  simpa using listing.yields_append nothing

theorem PreOrder.flatMap
    {ids : List NodeId}
    {below : NodeId → List NodeId}
    (each : ∀ id ∈ ids, tree.PreOrder (tree.children id) (below id)) :
    tree.PreOrder ids (ids.flatMap fun id => id :: below id) := by
  induction ids with
  | nil =>
      exact .nil
  | cons id ids inductionHypothesis =>
      obtain ⟨here, later⟩ := List.forall_mem_cons.mp each
      exact .cons here (inductionHypothesis later)

/-- A walk that goes deep enough lists everything below a node in pre-order. -/
theorem Linked.preOrder_below
    (linked : tree.Linked)
    {levels : Nat}
    {id : NodeId}
    (shallow : tree.IsShallow levels id) :
    tree.PreOrder (tree.children id) (tree.below levels id) := by
  induction levels generalizing id with
  | zero =>
      exact absurd shallow (not_isShallow_zero id)
  | succ levels inductionHypothesis =>
      exact PreOrder.flatMap fun child member =>
        inductionHypothesis (shallow.child (linked.mem_children_iff.mp member))

theorem Linked.preOrder_descendants
    (linked : tree.Linked)
    (id : NodeId) :
    tree.PreOrder (tree.children id) (tree.descendants id) :=
  linked.preOrder_below (linked.isShallow_size id)

end Listings

section Siblings

variable {tree : Tree}

/-- A child has fewer siblings on either side than the tree has nodes. -/
theorem Linked.length_siblings_lt
    (linked : tree.Linked)
    (id : NodeId) :
    (tree.precedingSiblings id).length < tree.size ∧
      (tree.followingSiblings id).length < tree.size := by
  cases owned : tree.parent? id with
  | none =>
      rw [linked.precedingSiblings_of_orphan owned, linked.followingSiblings_of_orphan owned]
      exact ⟨linked.nonempty, linked.nonempty⟩
  | some parent =>
      obtain ⟨earlier, later, shape⟩ := linked.exists_children_eq owned
      have bounded := linked.length_children_le parent
      rw [linked.precedingSiblings_eq shape, linked.followingSiblings_eq shape]
      simp only [shape, List.length_append, List.length_cons] at bounded
      simp only [List.length_reverse]
      omega

/-- A child with its siblings before and after it are the children of its parent. -/
theorem Linked.siblings_eq_children
    (linked : tree.Linked)
    {parent id : NodeId}
    (owned : tree.parent? id = some parent) :
    (tree.precedingSiblings id).reverse ++ [id] ++ tree.followingSiblings id =
      tree.children parent := by
  obtain ⟨earlier, later, shape⟩ := linked.exists_children_eq owned
  rw [linked.precedingSiblings_eq shape, linked.followingSiblings_eq shape, shape]
  simp

end Siblings

/-- The text of a node is its own and then, child by child, the text of its children. -/
theorem Linked.textContent_eq
    {tree : Tree}
    (linked : tree.Linked)
    (id : NodeId) :
    tree.textContent id =
      tree.ownText id ++ String.join ((tree.children id).map tree.textContent) := by
  have inTurn :
      ∀ ids : List NodeId,
        String.join ((ids.flatMap fun child => child :: tree.descendants child).map tree.ownText) =
          String.join (ids.map tree.textContent) := by
    intro ids
    induction ids with
    | nil =>
        rfl
    | cons child ids inductionHypothesis =>
        rw [List.flatMap_cons, List.map_append, String.join_append, inductionHypothesis]
        exact String.join_cons.symm
  rw [textContent, linked.descendants_eq, List.map_cons, String.join_cons, inTurn]

/--
In every tree that edits build and at every node the iterators over its ancestors, over its siblings
on either side and over its descendants end and give what the tree lists. The descendants are the
children, each in front of its own descendants, without repetition; they are the nodes that have the
node among their ancestors. A node that has a parent stands between its siblings in the child list
of the parent. The text of a node is what its record holds, the own text of an element and the
content of a text but nothing of the document and of raw markup, followed by the texts of its
children.
-/
theorem traversals_agree (edits : List Edit) (id : NodeId) :
    let tree := built edits
    Yields (takeLink? tree.parent?) (tree.parent? id) (tree.ancestors id) ∧
      Yields (takeLink? tree.previousSibling?) (tree.previousSibling? id)
        (tree.precedingSiblings id) ∧
      Yields (takeLink? tree.nextSibling?) (tree.nextSibling? id) (tree.followingSiblings id) ∧
      Yields tree.visitTop? (tree.children id) (tree.descendants id) ∧
      tree.descendants id =
        (tree.children id).flatMap (fun child => child :: tree.descendants child) ∧
      (tree.descendants id).Nodup ∧
      (∀ node,
        (node ∈ tree.descendants id ↔ tree.isDescendantOf node id = true) ∧
          (node ∈ tree.descendants id ↔ id ∈ tree.ancestors node)) ∧
      (∀ parent,
        tree.parent? id = some parent →
          (tree.precedingSiblings id).reverse ++ [id] ++ tree.followingSiblings id =
            tree.children parent) ∧
      tree.textContent id =
        (match (tree.nodes[id]?).map Node.kind with
          | some (.element element) => element.text.getD ""
          | some (.text content) => content
          | some (.raw _) => ""
          | some .document => ""
          | none => "") ++
          String.join ((tree.children id).map tree.textContent) := by
  intro tree
  have linked : tree.Linked := linked_built edits
  obtain ⟨fewBefore, fewAfter⟩ := linked.length_siblings_lt id
  refine ⟨yields_chain (linked.length_ancestors_lt id), yields_chain fewBefore,
    yields_chain fewAfter, (linked.preOrder_descendants id).yields, linked.descendants_eq id,
    linked.nodup_descendants id, ?_, fun _ => linked.siblings_eq_children, ?_⟩
  · intro node
    have below : node ∈ tree.descendants id ↔ id ∈ tree.ancestors node :=
      linked.mem_descendants_iff
    exact ⟨by rw [below, isDescendantOf, List.contains_iff_mem], below⟩
  · rw [linked.textContent_eq id, ownText, kind?, get?]
    cases (tree.nodes[id]?).map Node.kind with
    | none =>
        rfl
    | some kind =>
        cases kind <;> rfl

end MarkupQuery.Tree

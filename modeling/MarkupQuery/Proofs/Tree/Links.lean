import Mathlib.Logic.Relation
import Mathlib.Data.List.Nodup
import MarkupQuery.Proofs.Tree.Edits

namespace MarkupQuery.Tree

/-!
# The three records of one structure

Who is whose child is recorded as the parent of a node, as the child list of its parent and as the
links between neighbours in that list. This module says when the three records agree, and shows
that taking a node out of its place and putting it at another keeps them in agreement.
-/

/-- The first node is reached from the second by following parent links, one at least. -/
def Above (tree : Tree) (upper lower : NodeId) : Prop :=
  Relation.TransGen
    (fun child parent => tree.parent? child = some parent) lower upper

/--
The nodes of a list are linked to their neighbours in it; outside the list the first is linked
back to `before` and the last on to `after`.
-/
def SiblingChain
    (tree : Tree) :
    (before : Option NodeId) → List NodeId → (after : Option NodeId) → Prop
  | _, [], _ => True
  | before, id :: rest, after =>
      tree.previousSibling? id = before ∧
        tree.nextSibling? id = rest.head?.or after ∧
        SiblingChain tree (some id) rest after

/-- Parent links, child lists and sibling links record the same structure, without a circle. -/
structure Linked (tree : Tree) : Prop where
  nonempty :
    0 < tree.size
  mem_children_iff :
    ∀ {parent child : NodeId},
      child ∈ tree.children parent ↔ tree.parent? child = some parent
  nodup_children :
    ∀ parent : NodeId, (tree.children parent).Nodup
  siblings :
    ∀ parent : NodeId, tree.SiblingChain none (tree.children parent) none
  orphan :
    ∀ {id : NodeId}, tree.parent? id = none →
      tree.previousSibling? id = none ∧ tree.nextSibling? id = none
  acyclic :
    ∀ id : NodeId, ¬ tree.Above id id

section SiblingChains

variable {tree other : Tree}

/-- A chain of two pieces: each piece ends where the other begins. -/
theorem siblingChain_append
    {before after : Option NodeId}
    {first second : List NodeId} :
    tree.SiblingChain before (first ++ second) after ↔
      tree.SiblingChain before first (second.head?.or after) ∧
        tree.SiblingChain (first.getLast?.or before) second after := by
  induction first generalizing before with
  | nil =>
      simp [SiblingChain]
  | cons id rest inductionHypothesis =>
      have following :
          (rest ++ second).head?.or after =
            rest.head?.or (second.head?.or after) := by
        cases rest <;> simp
      have ending :
          (id :: rest).getLast?.or before =
            rest.getLast?.or (some id) := by
        cases last : rest.getLast? <;> simp [List.getLast?_cons, last]
      rw [ending]
      simp only [List.cons_append, SiblingChain, following, inductionHypothesis, and_assoc]

/-- Nodes whose sibling links did not change are still chained. -/
theorem SiblingChain.congr
    {before after : Option NodeId}
    {ids : List NodeId}
    (chain : tree.SiblingChain before ids after)
    (samePrevious : ∀ id ∈ ids, other.previousSibling? id = tree.previousSibling? id)
    (sameNext : ∀ id ∈ ids, other.nextSibling? id = tree.nextSibling? id) :
    other.SiblingChain before ids after := by
  induction ids generalizing before with
  | nil =>
      trivial
  | cons id rest inductionHypothesis =>
      obtain ⟨previous, next, restChain⟩ := chain
      refine ⟨?_, ?_, ?_⟩
      · rw [samePrevious id (by simp), previous]
      · rw [sameNext id (by simp), next]
      · exact inductionHypothesis restChain
          (fun id member => samePrevious id (by simp [member]))
          (fun id member => sameNext id (by simp [member]))

/-- A chain may be linked on to another node by changing its last node only. -/
theorem SiblingChain.redirectAfter
    {before after target : Option NodeId}
    {ids : List NodeId}
    (chain : tree.SiblingChain before ids after)
    (noDuplicates : ids.Nodup)
    (samePrevious : ∀ id ∈ ids, other.previousSibling? id = tree.previousSibling? id)
    (changedNext :
      ∀ id ∈ ids,
        other.nextSibling? id =
          if ids.getLast? = some id then target else tree.nextSibling? id) :
    other.SiblingChain before ids target := by
  induction ids generalizing before with
  | nil =>
      trivial
  | cons id rest inductionHypothesis =>
      obtain ⟨previous, next, restChain⟩ := chain
      obtain ⟨fresh, restNodup⟩ := List.nodup_cons.mp noDuplicates
      refine ⟨?_, ?_, ?_⟩
      · rw [samePrevious id (by simp), previous]
      · rw [changedNext id (by simp)]
        cases rest with
        | nil =>
            simp
        | cons neighbour others =>
            have notLast : (id :: neighbour :: others).getLast? ≠ some id := by
              intro last
              rw [List.getLast?_cons_cons] at last
              exact fresh (List.mem_of_getLast? last)
            rw [if_neg notLast, next]
            rfl
      · refine inductionHypothesis restChain restNodup
          (fun id member => samePrevious id (by simp [member])) ?_
        intro query member
        rw [changedNext query (by simp [member])]
        cases rest with
        | nil =>
            simp at member
        | cons neighbour others =>
            rw [List.getLast?_cons_cons]

/-- A chain may be linked back to another node by changing its first node only. -/
theorem SiblingChain.redirectBefore
    {before after target : Option NodeId}
    {ids : List NodeId}
    (chain : tree.SiblingChain before ids after)
    (noDuplicates : ids.Nodup)
    (sameNext : ∀ id ∈ ids, other.nextSibling? id = tree.nextSibling? id)
    (changedPrevious :
      ∀ id ∈ ids,
        other.previousSibling? id =
          if ids.head? = some id then target else tree.previousSibling? id) :
    other.SiblingChain target ids after := by
  cases ids with
  | nil =>
      trivial
  | cons id rest =>
      obtain ⟨previous, next, restChain⟩ := chain
      obtain ⟨fresh, restNodup⟩ := List.nodup_cons.mp noDuplicates
      refine ⟨?_, ?_, ?_⟩
      · rw [changedPrevious id (by simp)]
        simp
      · rw [sameNext id (by simp), next]
      · refine restChain.congr ?_ (fun query member => sameNext query (by simp [member]))
        intro query member
        have different : id ≠ query := fun same => fresh (same ▸ member)
        rw [changedPrevious query (by simp [member])]
        simp [different]

end SiblingChains

section Neighbours

variable {tree : Tree}

/-- Where a child stands tells its neighbours. -/
theorem Linked.neighbours
    (linked : tree.Linked)
    {parent id : NodeId}
    {earlier later : List NodeId}
    (shape : tree.children parent = earlier ++ id :: later) :
    tree.previousSibling? id = earlier.getLast? ∧
      tree.nextSibling? id = later.head? := by
  have chain := linked.siblings parent
  rw [shape, siblingChain_append] at chain
  obtain ⟨_, previous, next, _⟩ := chain
  exact ⟨by simpa using previous, by simpa using next⟩

/-- A child with the lists of its siblings before and after it. -/
theorem Linked.exists_children_eq
    (linked : tree.Linked)
    {parent id : NodeId}
    (owned : tree.parent? id = some parent) :
    ∃ earlier later, tree.children parent = earlier ++ id :: later :=
  List.append_of_mem (linked.mem_children_iff.mpr owned)

/-- A parent is a node of the arena. -/
theorem Linked.parent_lt
    (linked : tree.Linked)
    {parent id : NodeId}
    (owned : tree.parent? id = some parent) :
    parent < tree.size :=
  lt_size_of_mem_children (linked.mem_children_iff.mpr owned)

theorem Linked.child_lt
    (linked : tree.Linked)
    {parent id : NodeId}
    (member : id ∈ tree.children parent) :
    id < tree.size :=
  lt_size_of_parent? (linked.mem_children_iff.mp member)

/-- A sibling link leads to a child of the same parent. -/
theorem Linked.siblings_mem_children
    (linked : tree.Linked)
    {id sibling : NodeId}
    (link :
      tree.previousSibling? id = some sibling ∨ tree.nextSibling? id = some sibling) :
    ∃ parent, tree.parent? id = some parent ∧ sibling ∈ tree.children parent := by
  cases owned : tree.parent? id with
  | none =>
      obtain ⟨previous, next⟩ := linked.orphan owned
      simp [previous, next] at link
  | some parent =>
      refine ⟨parent, rfl, ?_⟩
      obtain ⟨earlier, later, shape⟩ := linked.exists_children_eq owned
      obtain ⟨previous, next⟩ := linked.neighbours shape
      rw [shape]
      rcases link with back | on
      · have member := List.mem_of_getLast? (previous.symm.trans back)
        simp [member]
      · have member := List.mem_of_mem_head? (next.symm.trans on)
        simp [member]

end Neighbours

end MarkupQuery.Tree

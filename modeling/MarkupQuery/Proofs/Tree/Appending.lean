import MarkupQuery.Proofs.Tree.Changes

namespace MarkupQuery.Tree

/-!
# What an append does

An append that is carried out takes a node with everything below it from where it was to the end of
a child list. Two child lists change by that one node and no other record does. An append that is
refused does nothing at all.
-/

/-- An append is refused: a node that it names is missing, or it would put a node below itself. -/
def RefusesAppend (tree : Tree) (parent child : NodeId) : Prop :=
  tree.size ≤ parent ∨ tree.size ≤ child ∨ child = parent ∨ child ∈ tree.ancestors parent

/-- One tree is another in which a node has moved to the end of a parent's children. -/
structure MovedTo (tree other : Tree) (parent child : NodeId) : Prop where
  newParent :
    other.parent? child = some parent
  newSiblings :
    other.children parent = (tree.children parent).filter (fun id => id != child) ++ [child]
  oldSiblings :
    ∀ old, tree.parent? child = some old → old ≠ parent →
      other.children old = (tree.children old).filter fun id => id != child
  otherParents :
    ∀ id, id ≠ child → other.parent? id = tree.parent? id
  otherChildren :
    ∀ id, id ≠ parent → tree.parent? child ≠ some id → other.children id = tree.children id
  kinds :
    ∀ id, other.kind? id = tree.kind? id
  size :
    other.size = tree.size
  descendants :
    other.descendants child = tree.descendants child

section Appends

variable {tree : Tree} {parent child : NodeId}

theorem not_refusesAppend_iff :
    ¬ tree.RefusesAppend parent child ↔ tree.canAppend parent child = true := by
  rw [canAppend_iff, RefusesAppend, not_or, not_or, not_or, Nat.not_le, Nat.not_le]

/-- A refusal leaves the tree as it was. -/
theorem append_of_refuses (refused : tree.RefusesAppend parent child) :
    tree.append parent child = tree := by
  have forbidden : ¬ tree.canAppend parent child = true :=
    fun allowed => not_refusesAppend_iff.mpr allowed refused
  rw [Tree.append, if_neg forbidden]

/-- What is below a node goes with it, since the new parent is not among it. -/
theorem Linked.descendants_append
    (linked : tree.Linked)
    (allowed : tree.canAppend parent child = true) :
    (tree.append parent child).descendants child = tree.descendants child := by
  obtain ⟨_, _, different, notAbove⟩ := canAppend_iff.mp allowed
  have parentOutside : ¬ tree.Within parent child := by
    rw [within_iff, ← linked.mem_ancestors_iff]
    rintro (same | above)
    · exact different same.symm
    · exact notAbove above
  have same := sameBelow_append linked parentOutside (linked.acyclic child)
  exact same.descendants linked (linked.append parent child) (within_refl child)

/-- An append that is not refused moves the child. -/
theorem Linked.movedTo_append
    (linked : tree.Linked)
    (allowed : tree.canAppend parent child = true) :
    tree.MovedTo (tree.append parent child) parent child where
  newParent := by
    rw [parent?_append allowed, if_pos rfl]
  newSiblings := by
    rw [linked.children_append allowed, if_pos rfl]
  oldSiblings := by
    intro old _ different
    rw [linked.children_append allowed, if_neg different]
  otherParents := by
    intro id different
    rw [parent?_append allowed, if_neg different]
  otherChildren := by
    intro id different elsewhere
    rw [linked.children_append allowed, if_neg different,
      linked.filter_children_of_elsewhere elsewhere]
  kinds :=
    kind?_append parent child
  size :=
    size_append tree parent child
  descendants :=
    linked.descendants_append allowed

end Appends

/--
An append is refused and leaves the tree as it was, or it moves the child to the end of the parent's
children and does nothing else.
-/
theorem append_built
    (edits : List Edit)
    (parent child : NodeId) :
    ((built edits).RefusesAppend parent child →
        (built edits).append parent child = built edits) ∧
      (¬ (built edits).RefusesAppend parent child →
        (built edits).MovedTo ((built edits).append parent child) parent child) := by
  refine ⟨append_of_refuses, fun carriedOut => ?_⟩
  exact (linked_built edits).movedTo_append (not_refusesAppend_iff.mp carriedOut)

end MarkupQuery.Tree

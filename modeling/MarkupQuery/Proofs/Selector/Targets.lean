import MarkupQuery.Proofs.Tree.Iterators
import MarkupQuery.Selector.Search

namespace MarkupQuery

/-!
# Targets by child lists

A search looks for later siblings along links and for descendants with a stack. What it finds can be
told from child lists alone: later siblings are what the parent lists behind a node, descendants are
the child lists unrolled in pre-order. So no target is listed twice and none is the node itself.
-/

namespace Tree

/-- What stands behind a node in the child list of its parent, if it has one. -/
def listedBehind (tree : Tree) (id : NodeId) : List NodeId :=
  match tree.parent? id with
  | none => []
  | some parent =>
      let siblings := tree.children parent
      siblings.drop (siblings.idxOf id + 1)

section Siblings

variable {tree : Tree} {id : NodeId}

theorem listedBehind_of_orphan (orphan : tree.parent? id = none) :
    tree.listedBehind id = [] := by
  rw [listedBehind, orphan]

/-- What is listed behind a child is the rest of the child list. -/
theorem Linked.listedBehind_eq
    (linked : tree.Linked)
    {parent : NodeId}
    {earlier later : List NodeId}
    (owned : tree.parent? id = some parent)
    (shape : tree.children parent = earlier ++ id :: later) :
    tree.listedBehind id = later := by
  have noDuplicates := linked.nodup_children parent
  rw [shape] at noDuplicates
  have fresh : id ∉ earlier := fun before =>
    (List.nodup_append.mp noDuplicates).2.2 id before id List.mem_cons_self rfl
  have place : (earlier ++ id :: later).idxOf id = earlier.length := by
    rw [List.idxOf_append_of_notMem fresh, List.idxOf_cons_self, Nat.add_zero]
  simp only [listedBehind, owned, shape, place]
  rw [← List.drop_drop, List.drop_left, List.drop_one, List.tail_cons]

/-- The siblings after a node are what stands behind it in a child list. -/
theorem Linked.followingSiblings_eq_listedBehind
    (linked : tree.Linked)
    (id : NodeId) :
    tree.followingSiblings id = tree.listedBehind id := by
  cases owned : tree.parent? id with
  | none =>
      rw [linked.followingSiblings_of_orphan owned, listedBehind_of_orphan owned]
  | some parent =>
      obtain ⟨earlier, later, shape⟩ := linked.exists_children_eq owned
      rw [linked.followingSiblings_eq shape, linked.listedBehind_eq owned shape]

theorem Linked.nodup_followingSiblings
    (linked : tree.Linked)
    (id : NodeId) :
    (tree.followingSiblings id).Nodup := by
  cases owned : tree.parent? id with
  | none =>
      rw [linked.followingSiblings_of_orphan owned]
      exact List.nodup_nil
  | some parent =>
      obtain ⟨earlier, later, shape⟩ := linked.exists_children_eq owned
      have noDuplicates := linked.nodup_children parent
      rw [shape] at noDuplicates
      rw [linked.followingSiblings_eq shape]
      exact (List.nodup_cons.mp (List.nodup_append.mp noDuplicates).2.1).2

end Siblings

end Tree

namespace Selector

open MarkupQuery.Tree (built)

section Targets

variable {tree : Tree}

theorem targets_sibling_eq
    (linked : tree.Linked)
    (context : NodeId) :
    Combinator.sibling.targets tree context =
      (tree.listedBehind context).filter tree.isElement := by
  rw [← linked.followingSiblings_eq_listedBehind, Combinator.targets]
  cases owned : tree.parent? context with
  | none =>
      rw [linked.followingSiblings_of_orphan owned]
      rfl
  | some parent =>
      rfl

/-- The adjacent target is the first of the later siblings that are targets. -/
theorem targets_adjacent_eq
    (linked : tree.Linked)
    (context : NodeId) :
    Combinator.adjacent.targets tree context =
      (Combinator.sibling.targets tree context).head?.toList := by
  rw [targets_sibling_eq linked, ← linked.followingSiblings_eq_listedBehind,
    List.head?_filter, Combinator.targets, Tree.nextElementSibling?]
  cases owned : tree.parent? context with
  | none =>
      rw [linked.followingSiblings_of_orphan owned]
      rfl
  | some parent =>
      rfl

/-- No node is its own target. -/
theorem context_not_mem_targets
    (linked : tree.Linked)
    (combinator : Combinator)
    (context : NodeId) :
    context ∉ combinator.targets tree context := by
  have notSibling : context ∉ Combinator.sibling.targets tree context := by
    rw [targets_sibling_eq linked, ← linked.followingSiblings_eq_listedBehind]
    intro member
    exact linked.ne_of_mem_followingSiblings (List.mem_filter.mp member).1 rfl
  have notBelow : context ∉ tree.descendants context := by
    rw [linked.mem_descendants_iff_above]
    exact linked.acyclic context
  cases combinator with
  | descendant =>
      exact fun member => notBelow (List.mem_filter.mp member).1
  | child =>
      intro member
      have owned := linked.mem_children_iff.mp (List.mem_filter.mp member).1
      exact linked.acyclic context (.single owned)
  | adjacent =>
      rw [targets_adjacent_eq linked]
      exact fun member => notSibling (List.mem_of_head? (Option.mem_toList.mp member))
  | sibling =>
      exact notSibling

/-- No node is a target twice. -/
theorem nodup_targets
    (linked : tree.Linked)
    (combinator : Combinator)
    (context : NodeId) :
    (combinator.targets tree context).Nodup := by
  cases combinator with
  | descendant =>
      exact (linked.nodup_descendants context).filter _
  | child =>
      exact (linked.nodup_children context).filter _
  | adjacent =>
      rw [targets_adjacent_eq linked]
      cases (Combinator.sibling.targets tree context).head? <;> simp
  | sibling =>
      rw [targets_sibling_eq linked, ← linked.followingSiblings_eq_listedBehind]
      exact (linked.nodup_followingSiblings context).filter _

end Targets

/--
In every tree that edits build and from every node: children are searched in the order of the child
list, later siblings in the order in which the parent lists them behind the node, of these the first
element alone is adjacent, and descendants are searched in the one pre-order there is. Links and the
stack lead to just these lists, of which the elements count. No target occurs twice or is the node
itself.
-/
theorem targets_eq_listed (edits : List Tree.Edit) (context : NodeId) :
    let tree := built edits
    Combinator.child.targets tree context = (tree.children context).filter tree.isElement ∧
      Tree.Yields (Tree.takeLink? tree.nextSibling?) (tree.nextSibling? context)
        (tree.listedBehind context) ∧
      Combinator.sibling.targets tree context =
        (tree.listedBehind context).filter tree.isElement ∧
      Combinator.adjacent.targets tree context =
        ((tree.listedBehind context).filter tree.isElement).head?.toList ∧
      (∃ listed,
        (∀ other, tree.PreOrder (tree.children context) other ↔ other = listed) ∧
          Tree.Yields tree.visitTop? (tree.children context) listed ∧
          Combinator.descendant.targets tree context = listed.filter tree.isElement) ∧
      ∀ combinator,
        (Combinator.targets combinator tree context).Nodup ∧
          context ∉ Combinator.targets combinator tree context := by
  intro tree
  have linked : tree.Linked := Tree.linked_built edits
  have siblings := targets_sibling_eq linked context
  have listing := linked.preOrder_descendants context
  have alongLinks := Tree.yields_chain (linked.length_siblings_lt context).2
  have onlyListing (other : List NodeId) :
      tree.PreOrder (tree.children context) other ↔ other = tree.descendants context :=
    ⟨fun otherListing => otherListing.unique listing, fun same => same ▸ listing⟩
  refine ⟨rfl, ?_, siblings, ?_, ⟨_, onlyListing, listing.yields, rfl⟩, fun combinator =>
    ⟨nodup_targets linked combinator context, context_not_mem_targets linked combinator context⟩⟩
  · rw [← linked.followingSiblings_eq_listedBehind]
    exact alongLinks
  · rw [targets_adjacent_eq linked, siblings]

end Selector

end MarkupQuery

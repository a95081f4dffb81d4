import MarkupQuery.Proofs.Tree.Grafting

namespace MarkupQuery.Tree

/-!
# Nodes revised before or after others are added

What a node stands for and how nodes are linked are changed independently. So a node may be revised
before others are added or after that: the tree is the same, unless the node is one of those added.
-/

open Sketch (sizeAll)

/-- A tree is what look-ups say. -/
theorem ext_get?
    {first second : Tree}
    (same : ∀ id, first.get? id = second.get? id) :
    first = second := by
  obtain ⟨nodes⟩ := first
  obtain ⟨others⟩ := second
  exact congrArg Tree.mk (Array.ext_getElem? same)

section Moves

variable {tree : Tree} {id : NodeId} {change : NodeKind → NodeKind}

/-- A revision changes the kind of its node and no link. -/
theorem get?_revise (query : NodeId) :
    (tree.revise id change).get? query =
      (tree.get? query).map fun node =>
        if id = query then { node with kind := change node.kind } else node :=
  get?_update tree id _ query

/-- A revision may as well come before a detachment. -/
theorem revise_detach (child : NodeId) :
    (tree.detach child).revise id change = (tree.revise id change).detach child := by
  have same := sameLinks_revise tree id change
  cases owned : tree.parent? child with
  | none =>
      have orphan : (tree.revise id change).parent? child = none := by
        rw [same.parent, owned]
      rw [detach_of_orphan owned, detach_of_orphan orphan]
  | some parent =>
      have stillOwned : (tree.revise id change).parent? child = some parent := by
        rw [same.parent, owned]
      refine ext_get? fun query => ?_
      rw [get?_revise, get?_detach owned, get?_detach stillOwned, get?_revise, same.previous,
        same.next, Option.map_map, Option.map_map]
      congr 1
      funext node
      by_cases here : id = query <;> simp [here]

/-- A revision may as well come before an attachment. -/
theorem revise_attach (parent child : NodeId) :
    (tree.attach parent child).revise id change = (tree.revise id change).attach parent child := by
  refine ext_get? fun query => ?_
  rw [get?_revise, get?_attach, get?_attach, get?_revise,
    (sameLinks_revise tree id change).children, Option.map_map, Option.map_map]
  congr 1
  funext node
  by_cases here : id = query <;> simp [here]

/-- Whether a node may be appended does not depend on what nodes stand for. -/
theorem canAppend_revise (parent child : NodeId) :
    (tree.revise id change).canAppend parent child = tree.canAppend parent child := by
  simp only [canAppend, isDescendantOf, ancestors, size_revise,
    (sameLinks_revise tree id change).parent]

/-- A revision may as well come before an append. -/
theorem revise_append (parent child : NodeId) :
    (tree.append parent child).revise id change = (tree.revise id change).append parent child := by
  unfold append
  rw [canAppend_revise]
  split
  · rw [revise_attach, revise_detach]
  · rfl

end Moves

section Additions

variable {tree : Tree} {id : Nat} {parent : NodeId} {change : NodeKind → NodeKind}

/-- A revision of an older node may as well come before a node is added. -/
theorem revise_add
    (old : id ≠ tree.size)
    (kind : NodeKind) :
    (tree.add kind).revise id change = (tree.revise id change).add kind := by
  refine ext_get? fun query => ?_
  rw [get?_revise, get?_add, get?_add, get?_revise, size_revise]
  by_cases added : query = tree.size
  · have other : id ≠ query := fun same => old (same.trans added)
    rw [if_pos added, if_pos added, Option.map_some, if_neg other]
  · rw [if_neg added, if_neg added]

/-- Revising a node that was just added is adding another one. -/
theorem revise_add_self (kind : NodeKind) :
    (tree.add kind).revise tree.size change = tree.add (change kind) := by
  refine ext_get? fun query => ?_
  rw [get?_revise, get?_add, get?_add]
  by_cases added : query = tree.size
  · rw [if_pos added, if_pos added, Option.map_some, if_pos added.symm]
  · rw [if_neg added, if_neg added]
    simp [Ne.symm added]

/-- A revision of an older node may as well come before a child is added. -/
theorem revise_addChild
    (old : id ≠ tree.size)
    (kind : NodeKind) :
    (tree.addChild parent kind).revise id change =
      (tree.revise id change).addChild parent kind := by
  rw [addChild, revise_append, revise_add old, addChild, size_revise]

/-- Revising a child just added is adding the revised child. -/
theorem revise_addChild_self (kind : NodeKind) :
    (tree.addChild parent kind).revise tree.size change =
      tree.addChild parent (change kind) := by
  rw [addChild, revise_append, revise_add_self, addChild]

/-- A name that is spared is not that of the next node. -/
theorem Spares.ne
    {count : Nat}
    (spared : tree.Spares (count + 1) id) :
    id ≠ tree.size := by
  unfold Spares at spared
  omega

mutual

/-- A revision of a node that is spared may as well come before a sketch is added. -/
theorem revise_graft
    {tree : Tree}
    {parent : NodeId} :
    ∀ {sketch : Sketch},
      tree.Spares sketch.size id →
        (tree.graft parent sketch).revise id change = (tree.revise id change).graft parent sketch
  | .node kind children, spared => by
      rw [Sketch.size] at spared
      have added : (tree.addChild parent kind).size = tree.size + 1 := by
        rw [addChild, size_append, size_add]
      have below : (tree.addChild parent kind).Spares (sizeAll children) id :=
        Spares.behind (Nat.add_comm _ 1 ▸ spared) added
      rw [graft, revise_graftAll below, revise_addChild spared.ne, graft, size_revise]

/-- A revision of a node that is spared may as well come before sketches are added. -/
theorem revise_graftAll
    {tree : Tree}
    {parent : NodeId} :
    ∀ {sketches : List Sketch},
      tree.Spares (sizeAll sketches) id →
        (tree.graftAll parent sketches).revise id change =
          (tree.revise id change).graftAll parent sketches
  | [], _ => rfl
  | first :: rest, spared => by
      rw [sizeAll] at spared
      have here : tree.Spares first.size id := spared.of_le (Nat.le_add_right _ _)
      have later := spared.behind (size_graft tree parent first)
      rw [graftAll, revise_graftAll later, revise_graft here, graftAll]

end

/-- Two revisions of a node are one. -/
theorem revise_revise (further : NodeKind → NodeKind) :
    (tree.revise id change).revise id further =
      tree.revise id fun kind => further (change kind) := by
  refine ext_get? fun query => ?_
  rw [get?_revise, get?_revise, get?_revise, Option.map_map]
  congr 1
  funext node
  by_cases here : id = query <;> simp [here]

/-- A revision that changes no kind changes nothing. -/
theorem revise_eq_self
    (same : ∀ kind, change kind = kind) :
    tree.revise id change = tree := by
  refine ext_get? fun query => ?_
  rw [get?_revise]
  simp [same]

end Additions

end MarkupQuery.Tree

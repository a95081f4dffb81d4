import MarkupQuery.Proofs.Tree.Traversal

namespace MarkupQuery.Tree

/-!
# Parts of a tree

The part of a tree at a node is the node with everything below it. Of two parts one lies in the
other or they have no node in common, and the parts at two children of one node always lie apart.
-/

/-- The first node is the second or stands below it. -/
def Within (tree : Tree) (lower upper : NodeId) : Prop :=
  Relation.ReflTransGen
    (fun child parent => tree.parent? child = some parent) lower upper

section Parts

variable {tree : Tree} {lower upper parent : NodeId}

theorem within_iff :
    tree.Within lower upper ↔ lower = upper ∨ tree.Above upper lower := by
  rw [Within, Relation.reflTransGen_iff_eq_or_transGen, eq_comm, Above]

theorem within_refl (id : NodeId) : tree.Within id id :=
  .refl

theorem Above.within (above : tree.Above upper lower) :
    tree.Within lower upper :=
  within_iff.mpr (Or.inr above)

/-- What stands above a node is its parent or stands above that. -/
theorem above_iff_of_parent
    (owned : tree.parent? lower = some parent) :
    tree.Above upper lower ↔ tree.Within parent upper := by
  rw [Above, Relation.TransGen.head'_iff]
  constructor
  · rintro ⟨next, link, onwards⟩
    rw [owned] at link
    exact Option.some.inj link ▸ onwards
  · exact fun onwards => ⟨parent, owned, onwards⟩

namespace Linked

theorem mem_descendants_iff_above (linked : tree.Linked) :
    lower ∈ tree.descendants upper ↔ tree.Above upper lower := by
  rw [linked.mem_descendants_iff, linked.mem_ancestors_iff]

/-- A node does not stand below its own child. -/
theorem not_within_child
    (linked : tree.Linked)
    (owned : tree.parent? lower = some parent) :
    ¬ tree.Within parent lower :=
  fun within => linked.acyclic lower ((above_iff_of_parent owned).mpr within)

/-- The parts at different children of one node have nothing in common. -/
theorem siblings_eq_of_within
    (linked : tree.Linked)
    {first second node : NodeId}
    (firstOwned : tree.parent? first = some parent)
    (secondOwned : tree.parent? second = some parent)
    (inFirst : tree.Within node first)
    (inSecond : tree.Within node second) :
    first = second := by
  -- Parent links lead from the common node to both, hence through one of them to the other.
  have oneParent :
      Relator.RightUnique fun child parent => tree.parent? child = some parent := by
    intro child left right leftOwns rightOwns
    exact Option.some.inj (leftOwns.symm.trans rightOwns)
  rcases Relation.ReflTransGen.total_of_right_unique oneParent inFirst inSecond with
    firstBelow | secondBelow
  · rcases within_iff.mp firstBelow with same | above
    · exact same
    · exact absurd ((above_iff_of_parent firstOwned).mp above)
        (linked.not_within_child secondOwned)
  · rcases within_iff.mp secondBelow with same | above
    · exact same.symm
    · exact absurd ((above_iff_of_parent secondOwned).mp above)
        (linked.not_within_child firstOwned)

/-- A node without a parent has no siblings. -/
theorem followingSiblings_of_orphan
    (linked : tree.Linked)
    (orphan : tree.parent? lower = none) :
    tree.followingSiblings lower = [] := by
  obtain ⟨size, shape⟩ := Nat.exists_eq_add_of_lt linked.nonempty
  simp [followingSiblings, shape, chain, (linked.orphan orphan).2]

theorem precedingSiblings_of_orphan
    (linked : tree.Linked)
    (orphan : tree.parent? lower = none) :
    tree.precedingSiblings lower = [] := by
  obtain ⟨size, shape⟩ := Nat.exists_eq_add_of_lt linked.nonempty
  simp [precedingSiblings, shape, chain, (linked.orphan orphan).1]

/-- A sibling that follows a node stands behind it in the same child list. -/
theorem exists_shape_of_mem_followingSiblings
    (linked : tree.Linked)
    {id sibling : NodeId}
    (follows : sibling ∈ tree.followingSiblings id) :
    ∃ parent earlier between later,
      tree.parent? id = some parent ∧
        tree.parent? sibling = some parent ∧
        tree.children parent = earlier ++ id :: (between ++ sibling :: later) := by
  cases owned : tree.parent? id with
  | none =>
      simp [linked.followingSiblings_of_orphan owned] at follows
  | some parent =>
      obtain ⟨earlier, behind, shape⟩ := linked.exists_children_eq owned
      rw [linked.followingSiblings_eq shape] at follows
      have listed : sibling ∈ tree.children parent := by
        simp [shape, follows]
      obtain ⟨between, later, rfl⟩ := List.append_of_mem follows
      exact ⟨parent, earlier, between, later, rfl, linked.mem_children_iff.mp listed, shape⟩

/-- One sibling follows another if the other precedes it. -/
theorem mem_precedingSiblings_iff
    (linked : tree.Linked)
    {id sibling : NodeId} :
    sibling ∈ tree.precedingSiblings id ↔ id ∈ tree.followingSiblings sibling := by
  constructor
  · intro precedes
    cases owned : tree.parent? id with
    | none =>
        simp [linked.precedingSiblings_of_orphan owned] at precedes
    | some parent =>
        obtain ⟨before, later, shape⟩ := linked.exists_children_eq owned
        rw [linked.precedingSiblings_eq shape, List.mem_reverse] at precedes
        obtain ⟨earlier, between, rfl⟩ := List.append_of_mem precedes
        have around :
            tree.children parent = earlier ++ sibling :: (between ++ id :: later) := by
          simpa using shape
        simp [linked.followingSiblings_eq around]
  · intro follows
    obtain ⟨parent, earlier, between, later, _, _, shape⟩ :=
      linked.exists_shape_of_mem_followingSiblings follows
    have around :
        tree.children parent = (earlier ++ sibling :: between) ++ id :: later := by
      simpa using shape
    simp [linked.precedingSiblings_eq around]

/-- What follows a following sibling follows the node itself. -/
theorem followingSiblings_trans
    (linked : tree.Linked)
    {first second third : NodeId}
    (follows : second ∈ tree.followingSiblings first)
    (further : third ∈ tree.followingSiblings second) :
    third ∈ tree.followingSiblings first := by
  obtain ⟨parent, earlier, between, later, _, _, shape⟩ :=
    linked.exists_shape_of_mem_followingSiblings follows
  have around :
      tree.children parent = (earlier ++ first :: between) ++ second :: later := by
    simpa using shape
  rw [linked.followingSiblings_eq around] at further
  simp [linked.followingSiblings_eq shape, further]

/-- A sibling that follows a node is another node. -/
theorem ne_of_mem_followingSiblings
    (linked : tree.Linked)
    {id sibling : NodeId}
    (follows : sibling ∈ tree.followingSiblings id) :
    sibling ≠ id := by
  obtain ⟨parent, earlier, between, later, _, _, shape⟩ :=
    linked.exists_shape_of_mem_followingSiblings follows
  have noDuplicates := linked.nodup_children parent
  rw [shape] at noDuplicates
  rintro rfl
  exact (List.nodup_cons.mp (List.nodup_append.mp noDuplicates).2.1).1 (by simp)

theorem exists_parent_of_mem_followingSiblings
    (linked : tree.Linked)
    {id sibling : NodeId}
    (follows : sibling ∈ tree.followingSiblings id) :
    ∃ parent, tree.parent? id = some parent ∧ tree.parent? sibling = some parent := by
  obtain ⟨parent, _, _, _, owned, siblingOwned, _⟩ :=
    linked.exists_shape_of_mem_followingSiblings follows
  exact ⟨parent, owned, siblingOwned⟩

end Linked

end Parts

end MarkupQuery.Tree

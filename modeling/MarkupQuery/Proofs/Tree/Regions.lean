import MarkupQuery.Proofs.Tree.DocumentOrder

namespace MarkupQuery.Tree

/-!
# Trees that are alike in a region

Two trees may hold the same in some region and differ elsewhere: in what stands above the region or
beside it, and in what texts are in it. A region holds the children of its nodes, so everything that
leads from a node of the region to others below it, or places one among its siblings, is the same in
both trees.
-/

/-- A node has a parent in a region. -/
def OwnedIn (tree : Tree) (region : NodeId → Prop) (id : NodeId) : Prop :=
  ∃ parent, tree.parent? id = some parent ∧ region parent

/-- The nodes of a region have the same children in two trees, and the same elements among them. -/
structure SameIn (tree other : Tree) (region : NodeId → Prop) : Prop where
  closed :
    ∀ {id : NodeId}, tree.OwnedIn region id → region id
  children :
    ∀ {id : NodeId}, region id → other.children id = tree.children id
  element :
    ∀ {id : NodeId}, tree.OwnedIn region id → other.element? id = tree.element? id

section Regions

variable {tree middle other : Tree} {region : NodeId → Prop} {id upper lower parent : NodeId}

theorem Linked.ownedIn_of_mem_children
    (linked : tree.Linked)
    (inside : region upper)
    (member : lower ∈ tree.children upper) :
    tree.OwnedIn region lower :=
  ⟨upper, linked.mem_children_iff.mp member, inside⟩

/-- Siblings have the same parent. -/
theorem Linked.ownedIn_of_mem_followingSiblings
    (linked : tree.Linked)
    (owned : tree.OwnedIn region id)
    {sibling : NodeId}
    (follows : sibling ∈ tree.followingSiblings id) :
    tree.OwnedIn region sibling := by
  obtain ⟨parent, isParent, siblingOwned⟩ :=
    linked.exists_parent_of_mem_followingSiblings follows
  obtain ⟨_, sameParent, inside⟩ := owned
  rw [isParent] at sameParent
  exact ⟨parent, siblingOwned, Option.some.inj sameParent ▸ inside⟩

namespace SameIn

theorem trans
    (first : tree.SameIn middle region)
    (second : middle.SameIn other region)
    (linked : tree.Linked)
    (middleLinked : middle.Linked) :
    tree.SameIn other region where
  closed := first.closed
  children := fun inside => (second.children inside).trans (first.children inside)
  element := by
    rintro id ⟨parent, owned, inside⟩
    have listed := linked.mem_children_iff.mpr owned
    rw [← first.children inside] at listed
    rw [second.element (middleLinked.ownedIn_of_mem_children inside listed),
      first.element ⟨parent, owned, inside⟩]

/-- A region holds what is below its nodes. -/
theorem within
    (same : tree.SameIn other region)
    (inside : region upper)
    (within : tree.Within lower upper) :
    region lower := by
  induction within using Relation.ReflTransGen.head_induction_on with
  | refl =>
      exact inside
  | head owned _ inductionHypothesis =>
      exact same.closed ⟨_, owned, inductionHypothesis⟩

theorem ownedIn_of_above
    (same : tree.SameIn other region)
    (inside : region upper)
    (above : tree.Above upper lower) :
    tree.OwnedIn region lower := by
  obtain ⟨parent, owned, within⟩ := Relation.TransGen.head'_iff.mp above
  exact ⟨parent, owned, same.within inside within⟩

theorem isElement
    (same : tree.SameIn other region)
    (owned : tree.OwnedIn region id) :
    other.isElement id = tree.isElement id := by
  rw [Tree.isElement, Tree.isElement, same.element owned]

section BothLinked

variable (same : tree.SameIn other region) (linked : tree.Linked) (otherLinked : other.Linked)

include same linked

/-- Walks downwards see the same. -/
theorem below
    (inside : region upper)
    (levels : Nat) :
    other.below levels upper = tree.below levels upper := by
  induction levels generalizing upper with
  | zero =>
      rfl
  | succ levels inductionHypothesis =>
      rw [Tree.below, Tree.below, same.children inside]
      refine List.flatMap_congr fun child member => ?_
      rw [inductionHypothesis (same.closed (linked.ownedIn_of_mem_children inside member))]

/-- The children that are elements are the same. -/
theorem elementChildren (inside : region upper) :
    other.elementChildren upper = tree.elementChildren upper := by
  rw [Tree.elementChildren, Tree.elementChildren, same.children inside]
  exact List.filter_congr fun child member =>
    same.isElement (linked.ownedIn_of_mem_children inside member)

theorem filter_isElement_followingSiblings (owned : tree.OwnedIn region id) :
    (tree.followingSiblings id).filter other.isElement =
      (tree.followingSiblings id).filter tree.isElement :=
  List.filter_congr fun _ follows =>
    same.isElement (linked.ownedIn_of_mem_followingSiblings owned follows)

include otherLinked

/-- The nodes of the region are parents of the same nodes. -/
theorem parent?_eq_some_iff (inside : region parent) :
    other.parent? id = some parent ↔ tree.parent? id = some parent := by
  rw [← otherLinked.mem_children_iff, ← linked.mem_children_iff, same.children inside]

/-- The same nodes are below a node of the region. -/
theorem descendants (inside : region upper) :
    other.descendants upper = tree.descendants upper := by
  have deep := same.below linked inside (tree.size + other.size)
  rw [linked.below_eq_descendants (linked.isShallow_size_add other.size upper),
    Nat.add_comm, otherLinked.below_eq_descendants
      (otherLinked.isShallow_size_add tree.size upper)] at deep
  exact deep

theorem followingSiblings (owned : tree.OwnedIn region id) :
    other.followingSiblings id = tree.followingSiblings id := by
  obtain ⟨parent, isParent, inside⟩ := owned
  obtain ⟨earlier, later, shape⟩ := linked.exists_children_eq isParent
  have otherShape := (same.children inside).trans shape
  rw [linked.followingSiblings_eq shape, otherLinked.followingSiblings_eq otherShape]

theorem nextElementSibling? (owned : tree.OwnedIn region id) :
    other.nextElementSibling? id = tree.nextElementSibling? id := by
  rw [Tree.nextElementSibling?, Tree.nextElementSibling?, ← List.head?_filter,
    ← List.head?_filter, same.followingSiblings linked otherLinked owned,
    same.filter_isElement_followingSiblings linked owned]

/-- Places among the elements under one parent are the same. -/
theorem place? (owned : tree.OwnedIn region id) :
    other.place? id = tree.place? id := by
  obtain ⟨parent, isParent, inside⟩ := owned
  rw [Tree.place?, Tree.place?, isParent,
    (same.parent?_eq_some_iff linked otherLinked inside).mpr isParent]
  simp only [Option.bind_some, same.elementChildren linked inside]

end BothLinked

end SameIn

end Regions

end MarkupQuery.Tree

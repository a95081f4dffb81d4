import MarkupQuery.Proofs.Tree.Sketches

namespace MarkupQuery.Tree

/-!
# Document order

The walk to everything below a node visits a child, then everything below the child, then the next
child. So in the list that it makes, what is below any node of the list stands in one piece right
behind that node, and nothing is listed twice.
-/

/-- Right behind each node of a list stands, in one piece, everything below that node. -/
def Unfolded (tree : Tree) : List NodeId → Prop
  | [] => True
  | node :: after => tree.descendants node <+: after ∧ Unfolded tree after

section Depth

variable {tree : Tree}

/-- Walks that both go deep enough see the same. -/
theorem Linked.below_eq_below
    (linked : tree.Linked)
    {first second : Nat}
    {id : NodeId}
    (firstShallow : tree.IsShallow first id)
    (secondShallow : tree.IsShallow second id) :
    tree.below first id = tree.below second id := by
  induction first generalizing second id with
  | zero =>
      exact absurd firstShallow (not_isShallow_zero id)
  | succ first inductionHypothesis =>
      cases second with
      | zero =>
          exact absurd secondShallow (not_isShallow_zero id)
      | succ second =>
          refine List.flatMap_congr fun child member => ?_
          have owned := linked.mem_children_iff.mp member
          rw [inductionHypothesis (firstShallow.child owned) (secondShallow.child owned)]

/-- Nothing is deeper below a node than the tree has nodes. -/
theorem Linked.isShallow_size_add
    (linked : tree.Linked)
    (further : Nat)
    (id : NodeId) :
    tree.IsShallow (tree.size + further) id := by
  intro lower walked
  rw [stepsAlong_add_of_ended (linked.stepsAlong_size lower)] at walked
  cases walked

/-- A walk that goes deep enough sees everything below the node. -/
theorem Linked.below_eq_descendants
    (linked : tree.Linked)
    {levels : Nat}
    {id : NodeId}
    (shallow : tree.IsShallow levels id) :
    tree.below levels id = tree.descendants id :=
  linked.below_eq_below shallow (linked.isShallow_size id)

/-- Below a node are its children, each in front of what is below it. -/
theorem Linked.descendants_eq
    (linked : tree.Linked)
    (id : NodeId) :
    tree.descendants id =
      (tree.children id).flatMap fun child => child :: tree.descendants child :=
  (linked.below_eq_descendants (linked.isShallow_size_add 1 id)).symm

/-- Sketches that both go deep enough show the same. -/
theorem Linked.sketch_eq_sketch
    (linked : tree.Linked)
    {first second : Nat}
    {id : NodeId}
    (firstShallow : tree.IsShallow first id)
    (secondShallow : tree.IsShallow second id) :
    tree.sketch first id = tree.sketch second id := by
  induction first generalizing second id with
  | zero =>
      exact absurd firstShallow (not_isShallow_zero id)
  | succ first inductionHypothesis =>
      cases second with
      | zero =>
          exact absurd secondShallow (not_isShallow_zero id)
      | succ second =>
          rw [sketch, sketch]
          congr 1
          refine List.map_congr_left fun child member => ?_
          have owned := linked.mem_children_iff.mp member
          exact inductionHypothesis (firstShallow.child owned) (secondShallow.child owned)

/-- A whole sketch is what the node stands for over the whole sketches of its children. -/
theorem Linked.sketch_eq
    (linked : tree.Linked)
    (id : NodeId) :
    tree.sketch tree.size id =
      .node ((tree.kind? id).getD .document)
        ((tree.children id).map (tree.sketch tree.size)) :=
  linked.sketch_eq_sketch (linked.isShallow_size id) (linked.isShallow_size_add 1 id)

theorem Linked.nodup_descendants
    (linked : tree.Linked)
    (id : NodeId) :
    (tree.descendants id).Nodup :=
  (List.nodup_cons.mp (linked.nodup_below tree.size id)).2

end Depth

section Unfolding

variable {tree : Tree}

theorem Unfolded.append
    {first second : List NodeId}
    (firstUnfolded : tree.Unfolded first)
    (secondUnfolded : tree.Unfolded second) :
    tree.Unfolded (first ++ second) := by
  induction first with
  | nil =>
      exact secondUnfolded
  | cons node after inductionHypothesis =>
      obtain ⟨behind, rest⟩ := firstUnfolded
      exact ⟨behind.trans (List.prefix_append _ _), inductionHypothesis rest⟩

theorem Unfolded.flatMap
    {pieces : NodeId → List NodeId}
    {ids : List NodeId}
    (each : ∀ id ∈ ids, tree.Unfolded (pieces id)) :
    tree.Unfolded (ids.flatMap pieces) := by
  induction ids with
  | nil =>
      trivial
  | cons id ids inductionHypothesis =>
      obtain ⟨here, later⟩ := List.forall_mem_cons.mp each
      exact here.append (inductionHypothesis later)

/-- A walk that goes deep enough unfolds every node in front of the next. -/
theorem Linked.unfolded_below
    (linked : tree.Linked)
    {levels : Nat}
    {id : NodeId}
    (shallow : tree.IsShallow levels id) :
    tree.Unfolded (tree.below levels id) := by
  induction levels generalizing id with
  | zero =>
      trivial
  | succ levels inductionHypothesis =>
      refine Unfolded.flatMap fun child member => ?_
      have childShallow := shallow.child (linked.mem_children_iff.mp member)
      have behind := linked.below_eq_descendants childShallow
      exact ⟨behind ▸ List.prefix_refl _, inductionHypothesis childShallow⟩

/-- In the list of everything below a node, each node is followed by what is below it. -/
theorem Linked.unfolded_descendants
    (linked : tree.Linked)
    (id : NodeId) :
    tree.Unfolded (tree.descendants id) :=
  linked.unfolded_below (linked.isShallow_size id)

end Unfolding

end MarkupQuery.Tree

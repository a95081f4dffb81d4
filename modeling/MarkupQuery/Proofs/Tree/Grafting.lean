import MarkupQuery.Proofs.Tree.Kinds
import MarkupQuery.Proofs.Tree.Sketches

namespace MarkupQuery.Tree

/-!
# Sketches added to a tree

A sketch is added to a tree node by node: its top is appended to a parent, what is below it to the
top in turn. The nodes get their names in this order, so that the sketch ends up laid out behind the
nodes that were there before; of these only the parent changes, by its new children. A parent that
is not there, and that none of the new nodes becomes, gets no children, and the top has no parent.
-/

open Sketch (sizeAll starts)

mutual

/-- Add a sketch at the end of a node's children. -/
def graft (tree : Tree) (parent : NodeId) : Sketch → Tree
  | .node kind children => graftAll (tree.addChild parent kind) tree.size children

/-- Add several sketches in order. -/
def graftAll (tree : Tree) (parent : NodeId) : List Sketch → Tree
  | [] => tree
  | first :: rest => graftAll (graft tree parent first) parent rest

end

theorem graftAll_append
    (tree : Tree)
    (parent : NodeId)
    (first second : List Sketch) :
    tree.graftAll parent (first ++ second) =
      (tree.graftAll parent first).graftAll parent second := by
  induction first generalizing tree with
  | nil =>
      rfl
  | cons sketch first inductionHypothesis =>
      exact inductionHypothesis (tree.graft parent sketch)

/-- The next nodes that a tree gets, so many of them, do not get some name. -/
def Spares (tree : Tree) (count id : Nat) : Prop :=
  id < tree.size ∨ tree.size + count ≤ id

namespace Spares

variable {tree grown : Tree} {count fewer further id : Nat}

theorem of_le
    (spared : tree.Spares count id)
    (less : fewer ≤ count) :
    tree.Spares fewer id := by
  unfold Spares at spared ⊢
  omega

theorem congr
    (spared : tree.Spares count id)
    (size : grown.size = tree.size) :
    grown.Spares count id := by
  unfold Spares at spared ⊢
  omega

/-- What is spared by nodes in a row is spared by the later ones. -/
theorem behind
    (spared : tree.Spares (count + further) id)
    (size : grown.size = tree.size + count) :
    grown.Spares further id := by
  unfold Spares at spared ⊢
  omega

end Spares

mutual

theorem size_graft
    (tree : Tree)
    (parent : NodeId) :
    ∀ sketch : Sketch, (tree.graft parent sketch).size = tree.size + sketch.size
  | .node kind children => by
      rw [graft, size_graftAll, addChild, size_append, size_add, Sketch.size]
      omega

theorem size_graftAll
    (tree : Tree)
    (parent : NodeId) :
    ∀ sketches : List Sketch,
      (tree.graftAll parent sketches).size = tree.size + sizeAll sketches
  | [] => rfl
  | first :: rest => by
      rw [graftAll, size_graftAll, size_graft, sizeAll, Nat.add_assoc]

end

section Children

variable {tree : Tree} {parent : NodeId}

/-- A node that was just added is appended wherever that is asked for. -/
theorem Linked.canAppend_add
    (linked : tree.Linked)
    (inside : parent < tree.size)
    (kind : NodeKind) :
    (tree.add kind).canAppend parent tree.size = true := by
  have added : (tree.add kind).Linked := keptByChanges_linked.add kind linked
  refine canAppend_iff.mpr ⟨?_, ?_, Ne.symm (Nat.ne_of_lt inside), ?_⟩
  · rw [size_add]
    exact Nat.lt_succ_of_lt inside
  · rw [size_add]
    exact Nat.lt_succ_self _
  · intro above
    obtain ⟨lower, _, link⟩ :=
      Relation.TransGen.tail'_iff.mp (added.mem_ancestors_iff.mp above)
    rw [(sameLinks_add tree kind).parent] at link
    exact absurd (linked.parent_lt link) (Nat.lt_irrefl _)

/-- A node that is added under no parent stays without one. -/
theorem addChild_of_unknown
    (beyond : tree.size < parent)
    (kind : NodeKind) :
    tree.addChild parent kind = tree.add kind := by
  have refused : (tree.add kind).canAppend parent tree.size ≠ true := by
    intro allowed
    have inside := (canAppend_iff.mp allowed).1
    rw [size_add] at inside
    exact absurd inside (Nat.not_lt.mpr beyond)
  rw [addChild, Tree.append, if_neg refused]

/-- A parent that is there gets the new node as its last child, and no other node gets one. -/
theorem Linked.children_addChild
    (linked : tree.Linked)
    (spared : tree.Spares 1 parent)
    (kind : NodeKind)
    {query : Nat}
    (there : query ≤ tree.size) :
    (tree.addChild parent kind).children query =
      if query = parent then tree.children query ++ [tree.size] else tree.children query := by
  have same := sameLinks_add tree kind
  rcases spared with inside | beyond
  · have orphan : (tree.add kind).parent? tree.size = none := by
      rw [same.parent]
      exact parent?_eq_none (Nat.le_refl _)
    have listed : parent < (tree.add kind).size := by
      rw [size_add]
      exact Nat.lt_succ_of_lt inside
    rw [addChild, Tree.append, if_pos (linked.canAppend_add inside kind), detach_of_orphan orphan,
      children_attach listed, same.children]
    split
    · next isParent =>
        rw [isParent]
    · rfl
  · rw [addChild_of_unknown beyond, same.children,
      if_neg (Nat.ne_of_lt (Nat.lt_of_le_of_lt there beyond))]

end Children

/-- A tree has grown out of another by sketches added to a parent. -/
structure Grafted
    (tree : Tree)
    (parent : NodeId)
    (sketches : List Sketch)
    (grown : Tree) : Prop where
  linked :
    grown.Linked
  size :
    grown.size = tree.size + sizeAll sketches
  kind :
    ∀ id : Nat, id < tree.size → grown.kind? id = tree.kind? id
  children :
    ∀ id : Nat, id < tree.size →
      grown.children id =
        if id = parent then tree.children id ++ starts tree.size sketches else tree.children id
  laidOut :
    grown.AllLaidOut tree.size sketches

section Grafted

variable {tree middle grown : Tree} {parent : NodeId}

theorem grafted_nil
    (linked : tree.Linked)
    (parent : NodeId) :
    tree.Grafted parent [] tree where
  linked := linked
  size := rfl
  kind := fun _ _ => rfl
  children := by
    intro id _
    simp [starts]
  laidOut := trivial

/-- A node that is added and appended stands behind all others. -/
theorem Linked.grafted_addChild
    (linked : tree.Linked)
    (spared : tree.Spares 1 parent)
    (kind : NodeKind) :
    tree.Grafted parent [.node kind []] (tree.addChild parent kind) where
  linked := (keptByChanges_linked.add kind linked).append parent tree.size
  size := by
    simp [addChild, sizeAll, Sketch.size]
  kind := by
    intro id old
    rw [kind?_addChild, if_neg (Nat.ne_of_lt old)]
  children := by
    intro id old
    rw [linked.children_addChild spared kind (Nat.le_of_lt old)]
    rfl
  laidOut := by
    have notParent : tree.size ≠ parent := by
      rcases spared with inside | beyond
      · exact Ne.symm (Nat.ne_of_lt inside)
      · exact Nat.ne_of_lt beyond
    refine ⟨⟨?_, ?_, trivial⟩, trivial⟩
    · rw [kind?_addChild, if_pos rfl]
    · rw [linked.children_addChild spared kind (Nat.le_refl _), if_neg notParent,
        children_eq_nil (Nat.le_refl _)]
      rfl

/-- Sketches that are added in two steps. -/
theorem Grafted.append
    {first second : List Sketch}
    (spared : tree.Spares (sizeAll first) parent)
    (before : tree.Grafted parent first middle)
    (after : middle.Grafted parent second grown) :
    tree.Grafted parent (first ++ second) grown where
  linked := after.linked
  size := by
    rw [after.size, before.size, Sketch.sizeAll_append, Nat.add_assoc]
  kind := by
    intro id old
    rw [after.kind id (by rw [before.size]; omega), before.kind id old]
  children := by
    intro id old
    rw [after.children id (by rw [before.size]; omega), before.children id old, before.size,
      Sketch.starts_append]
    split
    · rw [List.append_assoc]
    · rfl
  laidOut := by
    refine allLaidOut_append.mpr ⟨?_, before.size ▸ after.laidOut⟩
    refine AllLaidOut.congr ?_ (Nat.le_refl _) (Nat.le_of_eq before.size.symm) before.laidOut
    -- The second step gives children to the parent, which is none of the nodes of the first step.
    intro id new old
    have notParent : id ≠ parent := by
      rw [before.size] at old
      rcases spared with inside | beyond <;> omega
    refine ⟨after.kind id old, ?_⟩
    rw [after.children id old, if_neg notParent]

/-- A sketch whose top is added first, and then what is below it. -/
theorem Grafted.below
    {kind : NodeKind}
    {children : List Sketch}
    (top : tree.Grafted parent [.node kind []] middle)
    (rest : middle.Grafted tree.size children grown) :
    tree.Grafted parent [.node kind children] grown := by
  have size : middle.size = tree.size + 1 := top.size
  obtain ⟨⟨isKind, childless, _⟩, _⟩ := top.laidOut
  exact {
    linked := rest.linked
    size := by
      rw [rest.size, size]
      simp only [sizeAll, Sketch.size]
      omega
    kind := by
      intro id old
      rw [rest.kind id (by omega), top.kind id old]
    children := by
      intro id old
      rw [rest.children id (by omega), if_neg (Nat.ne_of_lt old), top.children id old]
      rfl
    laidOut := by
      refine ⟨⟨?_, ?_, ?_⟩, trivial⟩
      · rw [rest.kind tree.size (by omega), isKind]
      · rw [rest.children tree.size (by omega), if_pos rfl, childless, size]
        rfl
      · rw [← size]
        exact rest.laidOut
  }

end Grafted

mutual

/-- Adding a sketch leaves it laid out behind the tree that was there before. -/
theorem Linked.grafted_graft
    {tree : Tree}
    {parent : NodeId}
    (linked : tree.Linked) :
    ∀ {sketch : Sketch},
      tree.Spares sketch.size parent → tree.Grafted parent [sketch] (tree.graft parent sketch)
  | .node kind children, spared => by
      have top := linked.grafted_addChild (spared.of_le (by simp [Sketch.size])) kind
      have more : tree.size < (tree.addChild parent kind).size := by
        rw [top.size]
        exact Nat.lt_succ_self _
      exact top.below (Linked.grafted_graftAll top.linked (.inl more))

theorem Linked.grafted_graftAll
    {tree : Tree}
    {parent : NodeId}
    (linked : tree.Linked) :
    ∀ {sketches : List Sketch},
      tree.Spares (sizeAll sketches) parent →
        tree.Grafted parent sketches (tree.graftAll parent sketches)
  | [], _ => grafted_nil linked parent
  | first :: rest, spared => by
      rw [sizeAll] at spared
      have one := Linked.grafted_graft linked (spared.of_le (Nat.le_add_right _ _))
      have others := spared.behind (size_graft tree parent first)
      have firstSpared : tree.Spares (sizeAll [first]) parent :=
        spared.of_le (by simp [sizeAll])
      exact one.append firstSpared (Linked.grafted_graftAll one.linked others)

end

section Parents

variable {tree : Tree} {parent id : Nat}

/-- A node that is there keeps its parent when another is added. -/
theorem parent?_addChild
    (old : id < tree.size)
    (kind : NodeKind) :
    (tree.addChild parent kind).parent? id = tree.parent? id := by
  rw [addChild]
  by_cases allowed : (tree.add kind).canAppend parent tree.size = true
  · rw [parent?_append allowed, if_neg (Nat.ne_of_lt old), (sameLinks_add tree kind).parent]
  · rw [Tree.append, if_neg allowed, (sameLinks_add tree kind).parent]

/-- A node that is added gets its parent if that is there. -/
theorem Linked.parent?_addChild_self
    (linked : tree.Linked)
    (spared : tree.Spares 1 parent)
    (kind : NodeKind) :
    (tree.addChild parent kind).parent? tree.size =
      if parent < tree.size then some parent else none := by
  rcases spared with inside | beyond
  · rw [if_pos inside, addChild, parent?_append (linked.canAppend_add inside kind), if_pos rfl]
  · rw [if_neg (Nat.not_lt.mpr (Nat.le_of_lt beyond)), addChild_of_unknown beyond,
      (sameLinks_add tree kind).parent, parent?_eq_none (Nat.le_refl _)]

mutual

theorem parent?_graft
    {tree : Tree}
    {parent : NodeId}
    (old : id < tree.size) :
    ∀ sketch : Sketch, (tree.graft parent sketch).parent? id = tree.parent? id
  | .node kind children => by
      have stillOld : id < (tree.addChild parent kind).size := by
        rw [addChild, size_append, size_add]
        exact Nat.lt_succ_of_lt old
      rw [graft, parent?_graftAll stillOld, parent?_addChild old]

theorem parent?_graftAll
    {tree : Tree}
    {parent : NodeId}
    (old : id < tree.size) :
    ∀ sketches : List Sketch, (tree.graftAll parent sketches).parent? id = tree.parent? id
  | [] => rfl
  | first :: rest => by
      have stillOld : id < (tree.graft parent first).size := by
        rw [size_graft]
        exact Nat.lt_of_lt_of_le old (Nat.le_add_right _ _)
      rw [graftAll, parent?_graftAll stillOld, parent?_graft old]

end

/-- The top of a sketch that is added gets its parent if that is there. -/
theorem Linked.parent?_graft_self
    (linked : tree.Linked) :
    ∀ {sketch : Sketch},
      tree.Spares sketch.size parent →
        (tree.graft parent sketch).parent? tree.size =
          if parent < tree.size then some parent else none
  | .node kind children, spared => by
      have added : tree.size < (tree.addChild parent kind).size := by
        rw [addChild, size_append, size_add]
        exact Nat.lt_succ_self _
      rw [graft, parent?_graftAll added,
        linked.parent?_addChild_self (spared.of_le (by simp [Sketch.size]))]

/-- All tops of sketches that are added get their parent, or none of them does. -/
theorem Linked.parent?_of_mem_starts
    (linked : tree.Linked)
    {sketches : List Sketch}
    (spared : tree.Spares (sizeAll sketches) parent)
    {top : NodeId}
    (member : top ∈ starts tree.size sketches) :
    (tree.graftAll parent sketches).parent? top =
      if parent < tree.size then some parent else none := by
  induction sketches generalizing tree with
  | nil =>
      cases member
  | cons first rest inductionHypothesis =>
      rw [sizeAll] at spared
      have here : tree.Spares first.size parent := spared.of_le (Nat.le_add_right _ _)
      have later := spared.behind (size_graft tree parent first)
      have size := size_graft tree parent first
      have one := linked.grafted_graft here
      rw [starts] at member
      rw [graftAll]
      rcases List.mem_cons.mp member with rfl | further
      · have old : tree.size < (tree.graft parent first).size := by
          rw [size]
          exact Nat.lt_add_of_pos_right first.size_pos
        rw [parent?_graftAll old, linked.parent?_graft_self here]
      · have sameAnswer : parent < (tree.graft parent first).size ↔ parent < tree.size := by
          unfold Spares at here
          omega
        rw [← size] at further
        rw [inductionHypothesis one.linked later further]
        simp only [sameAnswer]

end Parents

/-- Sketches that are added to the document alone make it the document of them. -/
theorem Grafted.laidOut_document
    {grown : Tree}
    {sketches : List Sketch}
    (grafted : Tree.empty.Grafted root sketches grown) :
    grown.LaidOut 0 (.node .document sketches) ∧
      grown.size = (Sketch.node .document sketches).size := by
  have inside : root < Tree.empty.size := Nat.zero_lt_one
  refine ⟨⟨?_, ?_, grafted.laidOut⟩, ?_⟩
  · exact grafted.kind root inside
  · exact grafted.children root inside
  · rw [grafted.size, Sketch.size, size_empty, Nat.add_comm]

end MarkupQuery.Tree

import MarkupQuery.Proofs.Tree.Ancestry

namespace MarkupQuery

/-!
# Trees without names

What a part of a tree holds does not depend on what its nodes are called. A sketch is such a part
with the names left out: what nodes stand for, nested in each other. Each node of a tree has a
sketch, and a sketch may be laid out in an arena, each node in front of what is below it. A tree
laid out by the sketch of another is that tree with its nodes renumbered in document order.
-/

/-- A node with everything below it, whatever their names. -/
inductive Sketch where
  | node (kind : NodeKind) (children : List Sketch)

namespace Sketch

mutual

/-- The number of nodes. -/
def size : Sketch → Nat
  | .node _ children => sizeAll children + 1

def sizeAll : List Sketch → Nat
  | [] => 0
  | first :: rest => size first + sizeAll rest

end

theorem size_pos : ∀ sketch : Sketch, 0 < sketch.size
  | .node _ _ => Nat.succ_pos _

/-- Where sketches begin that are laid out one after the other from a place on. -/
def starts (place : Nat) : List Sketch → List NodeId
  | [] => []
  | first :: rest => place :: starts (place + first.size) rest

/-- Sketches in a row have as many nodes as their two parts. -/
theorem sizeAll_append (first second : List Sketch) :
    sizeAll (first ++ second) = sizeAll first + sizeAll second := by
  induction first with
  | nil =>
      simp [sizeAll]
  | cons sketch first inductionHypothesis =>
      simp only [List.cons_append, sizeAll, inductionHypothesis]
      omega

/-- The second part of a row begins behind all nodes of the first. -/
theorem starts_append
    (place : Nat)
    (first second : List Sketch) :
    starts place (first ++ second) =
      starts place first ++ starts (place + sizeAll first) second := by
  induction first generalizing place with
  | nil =>
      simp [starts, sizeAll]
  | cons sketch first inductionHypothesis =>
      simp [starts, sizeAll, inductionHypothesis, Nat.add_assoc]

end Sketch

namespace Tree

open Sketch (sizeAll starts)

/-- What stands at a node, `levels` levels deep. -/
def sketch (tree : Tree) : (levels : Nat) → NodeId → Sketch
  | 0, _ => .node .document []
  | levels + 1, id =>
      .node ((tree.kind? id).getD .document) ((tree.children id).map (sketch tree levels))

/-- Nothing is so many levels below a node, so that a sketch of them leaves out nothing. -/
def IsShallow (tree : Tree) (levels : Nat) (id : NodeId) : Prop :=
  ∀ lower, stepsAlong tree.parent? levels lower ≠ some id

section Levels

variable {tree : Tree}

theorem not_isShallow_zero (id : NodeId) :
    ¬ tree.IsShallow 0 id :=
  fun shallow => shallow id rfl

/-- Below a child there is one level less. -/
theorem IsShallow.child
    {levels : Nat}
    {id child : NodeId}
    (shallow : tree.IsShallow (levels + 1) id)
    (owned : tree.parent? child = some id) :
    tree.IsShallow levels child := by
  intro lower walked
  refine shallow lower ?_
  rw [stepsAlong_succ, walked, Option.bind_some, owned]

/-- What stands below the children of a node stands below the node. -/
theorem mem_below_of_mem_children
    {levels : Nat}
    {id child node : NodeId}
    (member : child ∈ tree.children id)
    (inChild : node ∈ child :: tree.below levels child) :
    node ∈ tree.below (levels + 1) id :=
  List.mem_flatMap.mpr ⟨child, member, inChild⟩

/-- No tree has more levels than nodes. -/
theorem Linked.isShallow_size
    (linked : tree.Linked)
    (id : NodeId) :
    tree.IsShallow tree.size id := by
  intro lower walked
  rw [linked.stepsAlong_size] at walked
  cases walked

end Levels

mutual

/-- A sketch is laid out from a place on: a node stands in front of what is below it. -/
def LaidOut (tree : Tree) (place : Nat) : Sketch → Prop
  | .node kind children =>
      tree.kind? place = some kind ∧
        tree.children place = starts (place + 1) children ∧
        AllLaidOut tree (place + 1) children

/-- Sketches are laid out one after the other from a place on. -/
def AllLaidOut (tree : Tree) (place : Nat) : List Sketch → Prop
  | [] => True
  | first :: rest =>
      LaidOut tree place first ∧ AllLaidOut tree (place + first.size) rest

end

section LaidOut

variable {tree other : Tree}

/-- The second part of a row is laid out behind all nodes of the first. -/
theorem allLaidOut_append
    {place : Nat}
    {first second : List Sketch} :
    tree.AllLaidOut place (first ++ second) ↔
      tree.AllLaidOut place first ∧ tree.AllLaidOut (place + sizeAll first) second := by
  induction first generalizing place with
  | nil =>
      simp [AllLaidOut, sizeAll]
  | cons sketch first inductionHypothesis =>
      simp [AllLaidOut, sizeAll, inductionHypothesis, and_assoc, Nat.add_assoc]

mutual

/-- What stands in one part of the arena does not depend on the rest of it. -/
theorem LaidOut.congr
    {first place stop : Nat}
    (same :
      ∀ id : Nat, first ≤ id → id < stop →
        other.kind? id = tree.kind? id ∧ other.children id = tree.children id) :
    ∀ {sketch : Sketch},
      first ≤ place → place + sketch.size ≤ stop →
        tree.LaidOut place sketch → other.LaidOut place sketch
  | .node kind children, after, before, laidOut => by
      obtain ⟨isKind, begins, below⟩ := laidOut
      rw [Sketch.size] at before
      obtain ⟨sameKind, sameChildren⟩ := same place after (by omega)
      exact ⟨sameKind.trans isKind, sameChildren.trans begins,
        AllLaidOut.congr same (by omega) (by omega) below⟩

theorem AllLaidOut.congr
    {first place stop : Nat}
    (same :
      ∀ id : Nat, first ≤ id → id < stop →
        other.kind? id = tree.kind? id ∧ other.children id = tree.children id) :
    ∀ {sketches : List Sketch},
      first ≤ place → place + sizeAll sketches ≤ stop →
        tree.AllLaidOut place sketches → other.AllLaidOut place sketches
  | [], _, _, _ => trivial
  | sketch :: rest, after, before, laidOut => by
      rw [sizeAll] at before
      exact ⟨LaidOut.congr same after (by omega) laidOut.1,
        AllLaidOut.congr same (by omega) (by omega) laidOut.2⟩

end

end LaidOut

section Order

variable {tree : Tree}

theorem length_flatMap_below
    {levels : Nat}
    {ids : List NodeId}
    (each : ∀ id ∈ ids, (tree.below levels id).length + 1 = (tree.sketch levels id).size) :
    (ids.flatMap fun id => id :: tree.below levels id).length =
      sizeAll (ids.map (tree.sketch levels)) := by
  induction ids with
  | nil =>
      rfl
  | cons id ids inductionHypothesis =>
      obtain ⟨here, later⟩ := List.forall_mem_cons.mp each
      rw [List.flatMap_cons, List.length_append, List.length_cons, inductionHypothesis later, here]
      rfl

/-- A sketch has as many nodes as the walk through the levels below the node sees. -/
theorem length_below_add_one
    (levels : Nat)
    (id : NodeId) :
    (tree.below levels id).length + 1 = (tree.sketch levels id).size := by
  induction levels generalizing id with
  | zero =>
      rfl
  | succ levels inductionHypothesis =>
      rw [below, sketch, Sketch.size, length_flatMap_below fun child _ => inductionHypothesis child]

end Order

/--
A node is a copy of the node that an order names at its place: both stand for the same, and the
children of the one are at the places of the children of the other.
-/
def CopiedAt (copy tree : Tree) (order : List NodeId) (index : Nat) : Prop :=
  ∀ id, order[index]? = some id →
    copy.kind? index = tree.kind? id ∧
      (copy.children index).map (order[·]?) = (tree.children id).map some

/-- A tree is a part of another with its nodes renumbered in some order. -/
structure Renumbers (copy tree : Tree) (order : List NodeId) : Prop where
  size :
    copy.size = order.length
  nodup :
    order.Nodup
  copied :
    ∀ index, copy.CopiedAt tree order index

section Renumbering

variable {copy tree : Tree} {order : List NodeId}

theorem getElem?_of_prefix_drop
    {place : Nat}
    {id : NodeId}
    {ids : List NodeId}
    (placed : id :: ids <+: order.drop place) :
    order[place]? = some id := by
  obtain ⟨behind, shape⟩ := placed
  rw [← Nat.add_zero place, ← List.getElem?_drop, ← shape]
  rfl

theorem prefix_drop_of_append
    {place : Nat}
    {first second : List NodeId}
    (placed : first ++ second <+: order.drop place) :
    first <+: order.drop place ∧ second <+: order.drop (place + first.length) := by
  obtain ⟨behind, shape⟩ := placed
  rw [← List.drop_drop, ← shape, List.append_assoc, List.drop_left]
  exact ⟨List.prefix_append _ _, List.prefix_append _ _⟩

/-- A node that stands in front of others in an order, with what is below it, and these. -/
theorem prefix_drop_of_flatMap_below
    {levels place : Nat}
    {id : NodeId}
    {ids : List NodeId}
    (placed :
      ((id :: ids).flatMap fun id => id :: tree.below levels id) <+: order.drop place) :
    id :: tree.below levels id <+: order.drop place ∧
      (ids.flatMap fun id => id :: tree.below levels id) <+:
        order.drop (place + (tree.sketch levels id).size) := by
  rw [List.flatMap_cons] at placed
  rw [← length_below_add_one, ← List.length_cons]
  exact prefix_drop_of_append placed

/-- Where sketches begin, an order names their nodes. -/
theorem map_starts
    {levels place : Nat}
    {ids : List NodeId}
    (placed : (ids.flatMap fun id => id :: tree.below levels id) <+: order.drop place) :
    (starts place (ids.map (tree.sketch levels))).map (order[·]?) = ids.map some := by
  induction ids generalizing place with
  | nil =>
      rfl
  | cons id ids inductionHypothesis =>
      obtain ⟨here, later⟩ := prefix_drop_of_flatMap_below placed
      simp [starts, getElem?_of_prefix_drop here, inductionHypothesis later]

/-- What is true of each of several sketches in a row is true of all of them. -/
theorem copiedAt_of_allLaidOut
    {levels place index : Nat}
    {ids : List NodeId}
    (laidOut : copy.AllLaidOut place (ids.map (tree.sketch levels)))
    (placed : (ids.flatMap fun id => id :: tree.below levels id) <+: order.drop place)
    (each :
      ∀ id ∈ ids, ∀ start : Nat,
        copy.LaidOut start (tree.sketch levels id) →
          id :: tree.below levels id <+: order.drop start →
            start ≤ index → index < start + (tree.sketch levels id).size →
              copy.CopiedAt tree order index)
    (after : place ≤ index)
    (before : index < place + sizeAll (ids.map (tree.sketch levels))) :
    copy.CopiedAt tree order index := by
  induction ids generalizing place with
  | nil =>
      simp only [List.map_nil, sizeAll] at before
      omega
  | cons id ids inductionHypothesis =>
      obtain ⟨first, rest⟩ := laidOut
      obtain ⟨here, later⟩ := prefix_drop_of_flatMap_below placed
      obtain ⟨eachHere, eachLater⟩ := List.forall_mem_cons.mp each
      rw [List.map_cons, sizeAll] at before
      by_cases inFirst : index < place + (tree.sketch levels id).size
      · exact eachHere place first here after inFirst
      · exact inductionHypothesis rest later eachLater (by omega) (by omega)

/-- Where the top of a sketch is laid out, it is a copy of the node. -/
theorem copiedAt_top
    {levels start : Nat}
    {id : NodeId}
    (inside : id < tree.size)
    (isKind : copy.kind? start = some ((tree.kind? id).getD .document))
    (begins :
      copy.children start = starts (start + 1) ((tree.children id).map (tree.sketch levels)))
    (here : order[start]? = some id)
    (placed :
      ((tree.children id).flatMap fun child => child :: tree.below levels child) <+:
        order.drop (start + 1)) :
    copy.CopiedAt tree order start := by
  intro query isHere
  have same : id = query :=
    Option.some.inj (here.symm.trans isHere)
  subst query
  refine ⟨?_, by rw [begins, map_starts placed]⟩
  cases kind : tree.kind? id with
  | none =>
      have missing : tree.get? id = none := Option.map_eq_none_iff.mp kind
      exact absurd (get?_eq_none_iff.mp missing) (Nat.not_le_of_lt inside)
  | some known =>
      rw [isKind, kind]
      rfl

/--
Where a full sketch of a node is laid out, the nodes are copies of the node and of what is below it.
-/
theorem Linked.copiedAt_of_laidOut
    (linked : tree.Linked)
    {levels start index : Nat}
    {id : NodeId}
    (inside : id < tree.size)
    (shallow : tree.IsShallow levels id)
    (laidOut : copy.LaidOut start (tree.sketch levels id))
    (placed : id :: tree.below levels id <+: order.drop start)
    (after : start ≤ index)
    (before : index < start + (tree.sketch levels id).size) :
    copy.CopiedAt tree order index := by
  induction levels generalizing id start with
  | zero =>
      exact absurd shallow (not_isShallow_zero id)
  | succ levels inductionHypothesis =>
      obtain ⟨isKind, begins, below⟩ := laidOut
      have here := getElem?_of_prefix_drop placed
      have children :
          (tree.children id).flatMap (fun child => child :: tree.below levels child) <+:
            order.drop (start + 1) := by
        rw [← List.singleton_append] at placed
        exact (prefix_drop_of_append placed).2
      rw [sketch, Sketch.size] at before
      rcases Nat.eq_or_lt_of_le after with top | under
      · exact top ▸ copiedAt_top inside isKind begins here children
      · refine copiedAt_of_allLaidOut below children ?_ under (by omega)
        intro child member childStart childLaidOut childPlaced childAfter childBefore
        exact inductionHypothesis (linked.child_lt member)
          (shallow.child (linked.mem_children_iff.mp member)) childLaidOut childPlaced childAfter
          childBefore

/-- A node stands above everything below it. -/
theorem Linked.above_of_mem_below
    (linked : tree.Linked)
    {levels : Nat}
    {upper lower : NodeId}
    (member : lower ∈ tree.below levels upper) :
    tree.Above upper lower :=
  transGen_of_mem_chain (mem_chain_iff.mpr (linked.mem_below_iff.mp member))

/-- A node and what is below it are different nodes, and the walk sees each of them once. -/
theorem Linked.nodup_below
    (linked : tree.Linked)
    (levels : Nat)
    (id : NodeId) :
    (id :: tree.below levels id).Nodup := by
  induction levels generalizing id with
  | zero =>
      simp [below]
  | succ levels inductionHypothesis =>
      have within :
          ∀ {child node}, node ∈ child :: tree.below levels child →
            tree.Within node child := by
        intro child node member
        rcases List.mem_cons.mp member with rfl | isBelow
        · exact within_refl node
        · exact (linked.above_of_mem_below isBelow).within
      refine List.nodup_cons.mpr ⟨?_, List.nodup_flatMap.mpr ⟨fun child _ => ?_, ?_⟩⟩
      · intro member
        obtain ⟨child, owned, isBelow⟩ := List.mem_flatMap.mp member
        exact linked.not_within_child (linked.mem_children_iff.mp owned) (within isBelow)
      · exact inductionHypothesis child
      · refine (linked.nodup_children id).imp_of_mem ?_
        intro first second firstOwned secondOwned different node inFirst inSecond
        exact different
          (linked.siblings_eq_of_within (linked.mem_children_iff.mp firstOwned)
            (linked.mem_children_iff.mp secondOwned) (within inFirst) (within inSecond))

/-- A tree laid out by the sketch of a node holds the node's part with its nodes renumbered. -/
theorem Linked.renumbers
    (linked : tree.Linked)
    {id : NodeId}
    (inside : id < tree.size)
    (laidOut : copy.LaidOut 0 (tree.sketch tree.size id))
    (size : copy.size = (tree.sketch tree.size id).size) :
    copy.Renumbers tree (id :: tree.descendants id) where
  size := by
    rw [size, ← length_below_add_one, List.length_cons, descendants]
  nodup :=
    linked.nodup_below tree.size id
  copied := by
    intro index query isHere
    have before : index < 0 + (tree.sketch tree.size id).size := by
      obtain ⟨bound, _⟩ := List.getElem?_eq_some_iff.mp isHere
      rwa [List.length_cons, descendants, length_below_add_one, ← Nat.zero_add (Sketch.size _)]
        at bound
    exact linked.copiedAt_of_laidOut inside (linked.isShallow_size id) laidOut
      (List.prefix_refl _) (Nat.zero_le _) before query isHere

end Renumbering

end Tree

end MarkupQuery

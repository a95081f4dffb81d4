import MarkupQuery.Proofs.Tree.DocumentOrder

namespace MarkupQuery

/-!
# Trees numbered in document order

Where a sketch is laid out, the nodes below its top are the numbers behind the place of the top, in
this order, and the sketch of the top is the one that was laid out. What is true of every node of
the sketch is true of every node in its part of the arena.
-/

namespace Sketch

mutual

/-- All nodes are of some sort, by what they stand for and what is directly below them. -/
def Each (sort : NodeKind → List Sketch → Prop) : Sketch → Prop
  | .node kind children => sort kind children ∧ AllEach sort children

def AllEach (sort : NodeKind → List Sketch → Prop) : List Sketch → Prop
  | [] => True
  | first :: rest => Each sort first ∧ AllEach sort rest

end

theorem allEach_append
    {sort : NodeKind → List Sketch → Prop}
    {first second : List Sketch} :
    AllEach sort (first ++ second) ↔ AllEach sort first ∧ AllEach sort second := by
  induction first with
  | nil =>
      simp [AllEach]
  | cons sketch first inductionHypothesis =>
      simp [AllEach, inductionHypothesis, and_assoc]

end Sketch

namespace Tree

open Sketch (sizeAll starts)

variable {tree : Tree}

mutual

/-- Below the top of a sketch are the numbers that follow its place. -/
theorem Linked.descendants_of_laidOut
    (linked : tree.Linked) :
    ∀ {place : Nat} {sketch : Sketch},
      tree.LaidOut place sketch →
        place :: tree.descendants place = List.range' place sketch.size
  | place, .node kind children, ⟨_, begins, below⟩ => by
      rw [linked.descendants_eq, begins, linked.flatMap_descendants_of_allLaidOut below,
        Sketch.size, List.range'_succ]

/-- Sketches laid out in a row are numbered in document order. -/
theorem Linked.flatMap_descendants_of_allLaidOut
    (linked : tree.Linked) :
    ∀ {place : Nat} {sketches : List Sketch},
      tree.AllLaidOut place sketches →
        (starts place sketches).flatMap (fun id => id :: tree.descendants id) =
          List.range' place (sizeAll sketches)
  | _, [], _ => rfl
  | place, first :: rest, ⟨here, later⟩ => by
      rw [starts, List.flatMap_cons, linked.descendants_of_laidOut here,
        linked.flatMap_descendants_of_allLaidOut later, sizeAll, List.range'_append_1]

end

mutual

/-- The sketch of a node, as deep as it goes, is the one that was laid out there. -/
theorem Linked.sketch_of_laidOut
    (linked : tree.Linked) :
    ∀ {levels place : Nat} {sketch : Sketch},
      tree.LaidOut place sketch → tree.IsShallow levels place → tree.sketch levels place = sketch
  | 0, place, _, _, shallow => absurd shallow (not_isShallow_zero place)
  | levels + 1, place, .node kind children, ⟨isKind, begins, below⟩, shallow => by
      have each : ∀ child ∈ starts (place + 1) children, tree.IsShallow levels child := by
        intro child member
        rw [← begins] at member
        exact shallow.child (linked.mem_children_iff.mp member)
      rw [Tree.sketch, isKind, begins, linked.map_sketch_of_allLaidOut below each]
      rfl

theorem Linked.map_sketch_of_allLaidOut
    (linked : tree.Linked) :
    ∀ {levels place : Nat} {sketches : List Sketch},
      tree.AllLaidOut place sketches →
        (∀ id ∈ starts place sketches, tree.IsShallow levels id) →
          (starts place sketches).map (tree.sketch levels) = sketches
  | _, _, [], _, _ => rfl
  | levels, place, first :: rest, ⟨here, later⟩, shallow => by
      obtain ⟨firstShallow, restShallow⟩ := List.forall_mem_cons.mp shallow
      rw [starts, List.map_cons, linked.sketch_of_laidOut here firstShallow,
        linked.map_sketch_of_allLaidOut later restShallow]

end

section Sorts

variable {sort : NodeKind → List Sketch → Prop} {id : Nat}

mutual

/-- A node in the part of a sketch is of the sort that all nodes of the sketch are of. -/
theorem exists_sort_of_laidOut :
    ∀ {place : Nat} {sketch : Sketch},
      tree.LaidOut place sketch → sketch.Each sort →
        place ≤ id → id < place + sketch.size →
          ∃ kind children,
            tree.kind? id = some kind ∧ tree.children id = starts (id + 1) children ∧
              sort kind children
  | place, .node kind children, ⟨isKind, begins, below⟩, ⟨ofSort, each⟩, after, before => by
      rw [Sketch.size] at before
      rcases Nat.eq_or_lt_of_le after with rfl | under
      · exact ⟨kind, children, isKind, begins, ofSort⟩
      · exact exists_sort_of_allLaidOut below each under (by omega)

/-- Each node of sketches laid out in a row is of the sort that they all are. -/
theorem exists_sort_of_allLaidOut :
    ∀ {place : Nat} {sketches : List Sketch},
      tree.AllLaidOut place sketches → Sketch.AllEach sort sketches →
        place ≤ id → id < place + sizeAll sketches →
          ∃ kind children,
            tree.kind? id = some kind ∧ tree.children id = starts (id + 1) children ∧
              sort kind children
  | place, [], _, _, after, before => by
      rw [sizeAll] at before
      omega
  | place, first :: rest, ⟨here, later⟩, ⟨firstEach, restEach⟩, after, before => by
      rw [sizeAll] at before
      by_cases inFirst : id < place + first.size
      · exact exists_sort_of_laidOut here firstEach after inFirst
      · exact exists_sort_of_allLaidOut later restEach (by omega) (by omega)

end

end Sorts

end Tree

end MarkupQuery

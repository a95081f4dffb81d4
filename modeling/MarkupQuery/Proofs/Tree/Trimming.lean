import MarkupQuery.Proofs.Tree.Regions
import MarkupQuery.Text.Blank

namespace MarkupQuery

/-!
# Trees that differ in blanks

Blanks at the ends of texts are a matter of layout. Trimming them away leaves what two layouts of
one tree have in common. Sketches that are the same when they are trimmed, laid out in two arenas,
make trees with the same links in which every node stands for the same when it is trimmed.
-/

/-- What a node stands for, without the blanks at the ends of a text. -/
def NodeKind.trimmed : NodeKind → NodeKind
  | .text content => .text (String.ofList (Text.trim content.toList))
  | kind => kind

namespace Sketch

mutual

/-- A sketch without the blanks at the ends of its texts. -/
def trimmed : Sketch → Sketch
  | .node kind children => .node kind.trimmed (allTrimmed children)

def allTrimmed : List Sketch → List Sketch
  | [] => []
  | first :: rest => trimmed first :: allTrimmed rest

end

theorem allTrimmed_append (first second : List Sketch) :
    allTrimmed (first ++ second) = allTrimmed first ++ allTrimmed second := by
  induction first with
  | nil =>
      rfl
  | cons sketch first inductionHypothesis =>
      rw [List.cons_append, allTrimmed, inductionHypothesis, allTrimmed, List.cons_append]

mutual

/-- Trimming takes no node away. -/
theorem size_trimmed :
    ∀ sketch : Sketch, sketch.trimmed.size = sketch.size
  | .node kind children => by
      rw [trimmed, size, size, sizeAll_allTrimmed children]

theorem sizeAll_allTrimmed :
    ∀ sketches : List Sketch, sizeAll (allTrimmed sketches) = sizeAll sketches
  | [] => rfl
  | first :: rest => by
      rw [allTrimmed, sizeAll, sizeAll, size_trimmed first, sizeAll_allTrimmed rest]

end

/-- So trimmed sketches begin where the sketches do. -/
theorem starts_allTrimmed
    (place : Nat)
    (sketches : List Sketch) :
    starts place (allTrimmed sketches) = starts place sketches := by
  induction sketches generalizing place with
  | nil =>
      rfl
  | cons sketch sketches inductionHypothesis =>
      rw [allTrimmed, starts, starts, size_trimmed, inductionHypothesis]

end Sketch

namespace Tree

open Sketch (sizeAll allTrimmed)

/-- A node has the same children in two trees, and stands for the same when it is trimmed. -/
structure AlikeAt (tree other : Tree) (id : NodeId) : Prop where
  kind : (other.kind? id).map NodeKind.trimmed = (tree.kind? id).map NodeKind.trimmed
  children : other.children id = tree.children id

section LaidOut

variable {tree other : Tree} {id : Nat}

mutual

/-- Where sketches that differ in blanks are laid out, nodes are alike. -/
theorem alikeAt_of_laidOut :
    ∀ {first second : Sketch} {place : Nat},
      first.trimmed = second.trimmed →
        tree.LaidOut place first → other.LaidOut place second →
          place ≤ id → id < place + first.size → tree.AlikeAt other id
  | .node kind children, .node otherKind otherChildren, place,
      same, laidOut, otherLaidOut, after, before => by
      obtain ⟨isKind, begins, below⟩ := laidOut
      obtain ⟨otherIsKind, otherBegins, otherBelow⟩ := otherLaidOut
      obtain ⟨sameKind, sameChildren⟩ := Sketch.node.inj same
      rw [Sketch.size] at before
      rcases Nat.eq_or_lt_of_le after with rfl | under
      · constructor
        · rw [isKind, otherIsKind, Option.map_some, Option.map_some, sameKind]
        · rw [begins, otherBegins, ← Sketch.starts_allTrimmed, ← sameChildren,
            Sketch.starts_allTrimmed]
      · exact alikeAt_of_allLaidOut sameChildren below otherBelow under (by omega)

theorem alikeAt_of_allLaidOut :
    ∀ {first second : List Sketch} {place : Nat},
      allTrimmed first = allTrimmed second →
        tree.AllLaidOut place first → other.AllLaidOut place second →
          place ≤ id → id < place + sizeAll first → tree.AlikeAt other id
  | [], _, place, _, _, _, after, before => by
      rw [sizeAll] at before
      omega
  | _ :: _, [], _, same, _, _, _, _ => nomatch same
  | sketch :: rest, other :: others, place, same, laidOut, otherLaidOut, after, before => by
      obtain ⟨sameFirst, sameRest⟩ := List.cons.inj same
      have sameSize : other.size = sketch.size := by
        rw [← Sketch.size_trimmed, ← sameFirst, Sketch.size_trimmed]
      obtain ⟨otherFirst, otherRest⟩ := otherLaidOut
      rw [sameSize] at otherRest
      rw [sizeAll] at before
      by_cases inFirst : id < place + sketch.size
      · exact alikeAt_of_laidOut sameFirst laidOut.1 otherFirst after inFirst
      · exact alikeAt_of_allLaidOut sameRest laidOut.2 otherRest (by omega) (by omega)

end

/-- Trees that consist of sketches which differ in blanks are alike everywhere. -/
theorem alikeAt_of_same_trimmed
    {first second : Sketch}
    (same : first.trimmed = second.trimmed)
    (laidOut : tree.LaidOut 0 first)
    (size : tree.size = first.size)
    (otherLaidOut : other.LaidOut 0 second)
    (otherSize : other.size = second.size) :
    other.size = tree.size ∧ ∀ id : Nat, tree.AlikeAt other id := by
  have sameSize : other.size = tree.size := by
    rw [size, otherSize, ← Sketch.size_trimmed, ← same, Sketch.size_trimmed]
  refine ⟨sameSize, fun (id : Nat) => ?_⟩
  by_cases inside : id < tree.size
  · exact alikeAt_of_laidOut same laidOut otherLaidOut (Nat.zero_le id) (by omega)
  · have missing : tree.get? id = none := get?_eq_none_iff.mpr (by omega)
    have otherMissing : other.get? id = none := get?_eq_none_iff.mpr (by omega)
    constructor
    · rw [kind?, kind?, missing, otherMissing]
    · rw [Tree.children, Tree.children, missing, otherMissing]

end LaidOut

section Alike

variable {tree other : Tree}

/-- Nodes that differ in blanks stand for the same element, if they stand for one. -/
theorem AlikeAt.element
    {id : NodeId}
    (alike : tree.AlikeAt other id) :
    other.element? id = tree.element? id := by
  have kinds := alike.kind
  unfold element?
  cases here : tree.kind? id with
  | none =>
      rw [here, Option.map_none, Option.map_eq_none_iff] at kinds
      rw [kinds]
  | some kind =>
      cases there : other.kind? id with
      | none =>
          rw [here, there] at kinds
          cases kinds
      | some otherKind =>
          rw [here, there, Option.map_some, Option.map_some, Option.some.injEq] at kinds
          cases kind <;> cases otherKind <;> simp_all [NodeKind.trimmed]

/-- Where all child lists are the same, so are the parents. -/
theorem parent?_eq_of_alike
    (alike : ∀ id, tree.AlikeAt other id)
    (linked : tree.Linked)
    (otherLinked : other.Linked)
    (id : NodeId) :
    other.parent? id = tree.parent? id := by
  ext parent
  rw [← otherLinked.mem_children_iff, ← linked.mem_children_iff, (alike parent).children]

/-- Trees that are alike everywhere are so in the region of all nodes. -/
theorem sameIn_of_alike (alike : ∀ id, tree.AlikeAt other id) :
    tree.SameIn other fun _ => True where
  closed := fun _ => trivial
  children := fun _ => (alike _).children
  element := fun _ => (alike _).element

end Alike

end Tree

end MarkupQuery

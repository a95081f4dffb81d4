import MarkupQuery.Proofs.Text.Folding
import MarkupQuery.Proofs.Tree.Traversal
import MarkupQuery.Selector.Matching

namespace MarkupQuery

/-!
# Positions among siblings

A position belongs to one element under a parent, and a number as it is printed is the argument that
accepts this position and no other.
-/

namespace Tree

variable {tree : Tree} {parent id : NodeId} {place : Place}

/-- The element at a position is the one that has it. -/
theorem getElem?_of_place?
    (owned : tree.parent? id = some parent)
    (placed : tree.place? id = some place) :
    (tree.elementChildren parent)[place.position - 1]? = some id := by
  rw [place?, owned, Option.bind_some] at placed
  obtain ⟨index, found, rfl⟩ := Option.map_eq_some_iff.mp placed
  obtain ⟨bound, here, _⟩ := List.idxOf?_eq_some_iff.mp found
  exact List.getElem?_eq_some_iff.mpr ⟨bound, here⟩

/-- No two elements under one parent have the same position. -/
theorem eq_of_position_eq
    {other : NodeId}
    {otherPlace : Place}
    (owned : tree.parent? id = some parent)
    (otherOwned : tree.parent? other = some parent)
    (placed : tree.place? id = some place)
    (otherPlaced : tree.place? other = some otherPlace)
    (same : place.position = otherPlace.position) :
    id = other := by
  have here := getElem?_of_place? owned placed
  have there := getElem?_of_place? otherOwned otherPlaced
  rw [same, there] at here
  exact (Option.some.inj here).symm

/-- Every element with a parent has a place. -/
theorem Linked.exists_place?
    (linked : tree.Linked)
    (owned : tree.parent? id = some parent)
    (element : tree.isElement id = true) :
    ∃ place, tree.place? id = some place := by
  have listed : id ∈ tree.elementChildren parent :=
    List.mem_filter.mpr ⟨linked.mem_children_iff.mpr owned, element⟩
  have found : ((tree.elementChildren parent).idxOf? id).isSome = true :=
    List.isSome_idxOf?.mpr listed
  obtain ⟨index, found⟩ := Option.isSome_iff_exists.mp found
  refine ⟨{ position := index + 1, count := (tree.elementChildren parent).length }, ?_⟩
  simp [place?, owned, found]

end Tree

namespace Selector.NthPosition

open MarkupQuery.Text

theorem isDigit_of_mem_toString
    {position : Nat}
    {c : Char}
    (member : c ∈ (toString position).toList) :
    c.isDigit = true := by
  rw [Nat.toString_eq_repr, Nat.toList_repr] at member
  exact Nat.isDigit_of_mem_toDigits (by decide) (by decide) member

theorem not_isBlank_of_mem_toString
    {position : Nat}
    {c : Char}
    (member : c ∈ (toString position).toList) :
    isBlank c = false := by
  have digit := isDigit_of_mem_toString member
  exact not_isBlank_of_isAlphanum (isAlphanum_iff.mpr (Or.inr (Or.inr digit)))

/-- A printed number means that number. -/
theorem ofArgument_toString (position : Nat) :
    ofArgument (toString position) = .number position := by
  have digits : ∀ c ∈ (toString position).toList, c.isDigit = true :=
    fun _ member => isDigit_of_mem_toString member
  have folded : lowercase (toString position) = toString position :=
    lowercase_eq_self fun c member => not_isUpper_of_isDigit (digits c member)
  have notOdd : toString position ≠ "odd" := fun same =>
    absurd (digits 'o' (by simp [same])) (by decide)
  have notEven : toString position ≠ "even" := fun same =>
    absurd (digits 'e' (by simp [same])) (by decide)
  have some : (toString position).toList ≠ [] := by
    rw [Nat.toString_eq_repr, Nat.toList_repr]
    exact Nat.toDigits_ne_nil
  have value : Nat.ofDigitChars 10 (toString position).toList 0 = position := by
    rw [Nat.toString_eq_repr, Nat.toList_repr]
    exact Nat.ofDigitChars_toDigits (by decide) (by decide)
  rw [ofArgument, folded, if_neg notOdd, if_neg notEven, value, if_pos]
  simpa [some] using digits

theorem accepts_toString_iff
    {expected position : Nat} :
    (ofArgument (toString expected)).accepts position = true ↔ position = expected := by
  rw [ofArgument_toString, accepts, beq_iff_eq, eq_comm]

end Selector.NthPosition

end MarkupQuery

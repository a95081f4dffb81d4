import MarkupQuery.Proofs.Tree.Kinds
import MarkupQuery.Proofs.Tree.Regions

namespace MarkupQuery.Tree

/-!
# Changes elsewhere

A tree may be changed while something looks at the part below one of its nodes. A change elsewhere
gives no node of the part new children and takes none away from it, it changes no node of the part
in place, but it may move the part as a whole. Whatever follows of such changes, below the node the
tree stays as it was.
-/

/-- One change of a tree that is already there. The nodes it names need not be. -/
inductive Change where
  /-- Add a node without a parent. -/
  | add (kind : NodeKind)
  /-- Make a node the last child of another. -/
  | append (parent child : NodeId)
  /-- Create an element under a parent. -/
  | addElement
      (parent : NodeId)
      (name : String)
      (text : Option String)
      (attributes : List (String × String))
  /-- Change what a node stands for, such as the attributes of an element or a text. -/
  | revise (id : NodeId) (change : NodeKind → NodeKind)

def change (tree : Tree) : Change → Tree
  | .add kind => tree.add kind
  | .append parent child => tree.append parent child
  | .addElement parent name text attributes => tree.addElement parent name text attributes
  | .revise id change => tree.revise id change

def changeAll (tree : Tree) (changes : List Change) : Tree :=
  changes.foldl change tree

/-- A node is neither another node nor below it. -/
def Elsewhere (tree : Tree) (root id : NodeId) : Prop :=
  id ≠ root ∧ id ∉ tree.descendants root

instance (tree : Tree) (root id : NodeId) : Decidable (tree.Elsewhere root id) :=
  inferInstanceAs (Decidable (_ ∧ _))

/--
A change is made elsewhere: only nodes elsewhere get children or are changed in place, and what is
moved is not below the root. It may be the root itself or a node above it.
-/
def Change.Elsewhere (tree : Tree) (root : NodeId) : Change → Prop
  | .add _ => True
  | .append parent child => tree.Elsewhere root parent ∧ child ∉ tree.descendants root
  | .addElement parent _ _ _ => tree.Elsewhere root parent
  | .revise id _ => tree.Elsewhere root id

instance (tree : Tree) (root : NodeId) :
    (change : Change) → Decidable (change.Elsewhere tree root)
  | .add _ => inferInstanceAs (Decidable True)
  | .append _ _ => inferInstanceAs (Decidable (_ ∧ _))
  | .addElement _ _ _ _ => inferInstanceAs (Decidable (tree.Elsewhere _ _))
  | .revise _ _ => inferInstanceAs (Decidable (tree.Elsewhere _ _))

/-- Each of several changes is made elsewhere, in the tree that the changes before it make. -/
def AllElsewhere (tree : Tree) (root : NodeId) : List Change → Prop
  | [] => True
  | first :: rest => first.Elsewhere tree root ∧ (tree.change first).AllElsewhere root rest

instance decidableAllElsewhere (tree : Tree) (root : NodeId) :
    (changes : List Change) → Decidable (tree.AllElsewhere root changes)
  | [] => inferInstanceAs (Decidable True)
  | first :: rest =>
      have := decidableAllElsewhere (tree.change first) root rest
      inferInstanceAs (Decidable (_ ∧ _))

/-- Two trees are alike in the part at a node, but for what the node itself stands for. -/
def SameBelow (tree other : Tree) (root : NodeId) : Prop :=
  tree.SameIn other fun id => tree.Within id root

section Parts

variable {tree middle other : Tree} {root : NodeId}

theorem sameBelow_of
    (children : ∀ id, tree.Within id root → other.children id = tree.children id)
    (element : ∀ id, tree.Above root id → other.element? id = tree.element? id) :
    tree.SameBelow other root where
  closed := by
    rintro id ⟨parent, owned, within⟩
    exact .head owned within
  children := children _
  element := by
    rintro id ⟨parent, owned, within⟩
    exact element id ((above_iff_of_parent owned).mpr within)

namespace SameBelow

theorem refl (tree : Tree) (root : NodeId) :
    tree.SameBelow tree root :=
  sameBelow_of (fun _ _ => rfl) (fun _ _ => rfl)

/-- The parts consist of the same nodes. -/
theorem within_iff
    (same : tree.SameBelow other root)
    (linked : tree.Linked)
    (otherLinked : other.Linked)
    {id : NodeId} :
    other.Within id root ↔ tree.Within id root := by
  constructor
  · intro within
    induction within using Relation.ReflTransGen.head_induction_on with
    | refl =>
        exact within_refl root
    | head owned _ inductionHypothesis =>
        have ownedBefore :=
          (same.parent?_eq_some_iff linked otherLinked inductionHypothesis).mp owned
        exact .head ownedBefore inductionHypothesis
  · intro within
    induction within using Relation.ReflTransGen.head_induction_on with
    | refl =>
        exact within_refl root
    | head owned within inductionHypothesis =>
        have ownedAfter := (same.parent?_eq_some_iff linked otherLinked within).mpr owned
        exact .head ownedAfter inductionHypothesis

theorem trans
    (first : tree.SameBelow middle root)
    (second : middle.SameBelow other root)
    (linked : tree.Linked)
    (middleLinked : middle.Linked) :
    tree.SameBelow other root := by
  unfold SameBelow at second
  simp only [first.within_iff linked middleLinked] at second
  exact SameIn.trans first second linked middleLinked

end SameBelow

end Parts

section OneChange

variable {tree : Tree} {root : NodeId}

theorem Linked.elsewhere_iff
    (linked : tree.Linked)
    {id : NodeId} :
    tree.Elsewhere root id ↔ ¬ tree.Within id root := by
  rw [Elsewhere, within_iff, linked.mem_descendants_iff_above, not_or]

/-- A node that is added stands below nothing. -/
theorem sameBelow_add (kind : NodeKind) :
    tree.SameBelow (tree.add kind) root := by
  apply sameBelow_of
  · intro id _
    rw [(sameLinks_add tree kind).children]
  · intro id above
    obtain ⟨parent, owned, _⟩ := Relation.TransGen.head'_iff.mp above
    have old : id ≠ tree.size := Nat.ne_of_lt (lt_size_of_parent? owned)
    rw [element?, element?, kind?_add, if_neg old]

/-- Changing what a node elsewhere stands for changes nothing below the root. -/
theorem sameBelow_revise
    {id : NodeId}
    (outside : ¬ tree.Within id root)
    (change : NodeKind → NodeKind) :
    tree.SameBelow (tree.revise id change) root := by
  apply sameBelow_of
  · intro query _
    rw [(sameLinks_revise tree id change).children]
  · intro query above
    have other : id ≠ query := by
      rintro rfl
      exact outside above.within
    rw [element?, element?, kind?_revise]
    simp [other]

/-- A node that is not below the root leaves no child list below it and enters none. -/
theorem sameBelow_append
    (linked : tree.Linked)
    {parent child : NodeId}
    (parentOutside : ¬ tree.Within parent root)
    (childOutside : ¬ tree.Above root child) :
    tree.SameBelow (tree.append parent child) root := by
  apply sameBelow_of
  · intro id within
    by_cases allowed : tree.canAppend parent child = true
    · have notTarget : id ≠ parent := by
        rintro rfl
        exact parentOutside within
      have notSource : tree.parent? child ≠ some id := by
        intro owned
        exact childOutside ((above_iff_of_parent owned).mpr within)
      rw [linked.children_append allowed, if_neg notTarget,
        linked.filter_children_of_elsewhere notSource]
    · rw [append, if_neg allowed]
  · intro id _
    rw [element?, element?, kind?_append]

/-- A new element elsewhere changes nothing below the root. -/
theorem sameBelow_addChild
    (linked : tree.Linked)
    {parent : NodeId}
    (outside : ¬ tree.Within parent root)
    (kind : NodeKind) :
    tree.SameBelow (tree.addChild parent kind) root := by
  have added : (tree.add kind).Linked := keptByChanges_linked.add kind linked
  have sameParents := (sameLinks_add tree kind).parent
  have parentOutside : ¬ (tree.add kind).Within parent root := by
    rw [Within, sameParents]
    exact outside
  have newOutside : ¬ (tree.add kind).Above root tree.size := by
    intro above
    obtain ⟨_, owned, _⟩ := Relation.TransGen.head'_iff.mp above
    rw [sameParents] at owned
    exact absurd (lt_size_of_parent? owned) (Nat.lt_irrefl _)
  exact (sameBelow_add kind).trans (sameBelow_append added parentOutside newOutside) linked added

/-- Every change keeps the records of a tree in agreement. -/
theorem Linked.change
    (linked : tree.Linked)
    (change : Change) :
    (tree.change change).Linked := by
  cases change with
  | add kind =>
      exact keptByChanges_linked.add kind linked
  | append parent child =>
      exact linked.append parent child
  | addElement parent name text attributes =>
      exact (keptByChanges_linked.add _ linked).append parent tree.size
  | revise id change =>
      have nonempty : 0 < (tree.revise id change).size := by
        simpa using linked.nonempty
      exact linked.of_sameLinks (sameLinks_revise tree id change) nonempty

/-- A change elsewhere leaves the tree as it was below the root. -/
theorem Linked.sameBelow_change
    (linked : tree.Linked)
    {change : Change}
    (outside : change.Elsewhere tree root) :
    tree.SameBelow (tree.change change) root := by
  cases change with
  | add kind =>
      exact sameBelow_add kind
  | append parent child =>
      obtain ⟨parentOutside, childOutside⟩ := outside
      rw [linked.mem_descendants_iff_above] at childOutside
      exact sameBelow_append linked (linked.elsewhere_iff.mp parentOutside) childOutside
  | addElement parent name text attributes =>
      exact sameBelow_addChild linked (linked.elsewhere_iff.mp outside) _
  | revise id change =>
      exact sameBelow_revise (linked.elsewhere_iff.mp outside) change

end OneChange

/-- Changes elsewhere, however many, leave the tree as it was below the root. -/
theorem Linked.sameBelow_changeAll
    {tree : Tree}
    (linked : tree.Linked)
    {root : NodeId}
    {changes : List Change}
    (outside : tree.AllElsewhere root changes) :
    (tree.changeAll changes).Linked ∧ tree.SameBelow (tree.changeAll changes) root := by
  induction changes generalizing tree with
  | nil =>
      exact ⟨linked, .refl tree root⟩
  | cons first rest inductionHypothesis =>
      obtain ⟨here, later⟩ := outside
      have changed := linked.change first
      obtain ⟨restLinked, restSame⟩ := inductionHypothesis changed later
      exact ⟨restLinked, (linked.sameBelow_change here).trans restSame linked changed⟩

end MarkupQuery.Tree

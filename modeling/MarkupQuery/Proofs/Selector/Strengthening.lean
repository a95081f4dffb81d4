import Mathlib.Data.List.Flatten
import Mathlib.Tactic.Tauto
import MarkupQuery.Proofs.Selector.Levels
import MarkupQuery.Proofs.Selector.Routes

namespace MarkupQuery.Selector

/-!
# More tests find less

A segment is made stronger by tests that it did not have. Where the last segment of a branch is made
stronger, just those nodes are left that pass the new tests, each in its place. A segment further to
the front sends the search on fewer ways, so nothing new is found; but a node may now be met on a
later way first, and so change its place. Which classes and attributes are tested matters, in which
order and how often does not.
-/

open MarkupQuery.Tree (built)

/-- A test that at most one of two may have is taken from the one that has it. -/
def TakenFrom
    {α : Type}
    (first second taken : Option α) : Prop :=
  (second = none ∧ taken = first) ∨ (first = none ∧ taken = second)

namespace Segment

/--
A segment has the tests of another and some added ones, and stands under the same combinator. A tag
is not added, and an id or a pseudo-class only where there was none.
-/
structure StrengthenedBy (segment added stronger : Segment) : Prop where
  combinator :
    stronger.combinator = segment.combinator
  noTag :
    added.tag = none
  tag :
    stronger.tag = segment.tag
  id :
    TakenFrom segment.id added.id stronger.id
  classes :
    ∀ className,
      className ∈ stronger.classes ↔ className ∈ segment.classes ∨ className ∈ added.classes
  attributes :
    ∀ test,
      test ∈ stronger.attributes ↔ test ∈ segment.attributes ∨ test ∈ added.attributes
  pseudo :
    TakenFrom segment.pseudo added.pseudo stronger.pseudo

/-- Two segments differ at most in the order and the repetition of classes and attribute tests. -/
structure Rearranged (segment other : Segment) : Prop where
  combinator :
    other.combinator = segment.combinator
  tag :
    other.tag = segment.tag
  id :
    other.id = segment.id
  classes :
    ∀ className, className ∈ other.classes ↔ className ∈ segment.classes
  attributes :
    ∀ test, test ∈ other.attributes ↔ test ∈ segment.attributes
  pseudo :
    other.pseudo = segment.pseudo

end Segment

/-- Some segments of a branch are made stronger, each by tests of its own. -/
def Branch.Strengthened (branch stronger : Branch) : Prop :=
  List.Forall₂ (fun segment other => ∃ added, segment.StrengthenedBy added other) branch stronger

section Tests

variable {tree : Tree} {node : NodeId} {segment added stronger other : Segment}

theorem TakenFrom.all_eq
    {α : Type}
    {first second taken : Option α}
    (source : TakenFrom first second taken)
    (passes : α → Bool) :
    taken.all passes = (first.all passes && second.all passes) := by
  rcases source with ⟨rfl, rfl⟩ | ⟨rfl, rfl⟩ <;> simp

/-- All items of a list pass if those of two lists do of which it is made up. -/
theorem all_eq_of_mem_iff
    {α : Type}
    {first second items : List α}
    (made : ∀ item, item ∈ items ↔ item ∈ first ∨ item ∈ second)
    (passes : α → Bool) :
    items.all passes = (first.all passes && second.all passes) := by
  rw [Bool.eq_iff_iff]
  simp [made, or_imp, forall_and]

/-- An element passes the stronger segment if it passes the segment and the added tests. -/
theorem Segment.StrengthenedBy.acceptsElement_eq
    (strongerBy : segment.StrengthenedBy added stronger)
    (element : Element) :
    stronger.acceptsElement element =
      (segment.acceptsElement element && added.acceptsElement element) := by
  rw [acceptsElement, acceptsElement, acceptsElement, strongerBy.tag, strongerBy.noTag,
    strongerBy.id.all_eq, acceptsClasses, all_eq_of_mem_iff strongerBy.classes, ← acceptsClasses,
    ← acceptsClasses, all_eq_of_mem_iff strongerBy.attributes, Option.all_none, Bool.true_and]
  ac_rfl

theorem Segment.StrengthenedBy.accepts_eq
    (strongerBy : segment.StrengthenedBy added stronger) :
    stronger.accepts tree node = (segment.accepts tree node && added.accepts tree node) := by
  rw [accepts, accepts, accepts, strongerBy.pseudo.all_eq]
  cases tree.element? node with
  | none =>
      rfl
  | some element =>
      rw [Option.any_some, Option.any_some, Option.any_some, strongerBy.acceptsElement_eq]
      ac_rfl

/-- Without a test every element passes. -/
theorem Segment.accepts_without_tests :
    Segment.accepts {} tree node = tree.isElement node := by
  cases element : tree.element? node <;>
    simp [accepts, acceptsElement, acceptsClasses, Tree.isElement, element]

/-- A segment that is rearranged gets no tests besides its own. -/
theorem Segment.Rearranged.strengthenedBy (rearranged : segment.Rearranged other) :
    segment.StrengthenedBy {} other where
  combinator := rearranged.combinator
  noTag := rfl
  tag := rearranged.tag
  id := Or.inl ⟨rfl, rearranged.id⟩
  classes := by
    simpa using rearranged.classes
  attributes := by
    simpa using rearranged.attributes
  pseudo := Or.inl ⟨rfl, rearranged.pseudo⟩

theorem Segment.Rearranged.accepts_eq (rearranged : segment.Rearranged other) :
    other.accepts tree node = segment.accepts tree node := by
  rw [rearranged.strengthenedBy.accepts_eq, accepts_without_tests]
  cases accepted : segment.accepts tree node with
  | false =>
      rfl
  | true =>
      rw [isElement_of_accepts accepted]
      rfl

/-- A segment is itself one of its rearrangements. -/
theorem Segment.Rearranged.refl (segment : Segment) :
    segment.Rearranged segment where
  combinator := rfl
  tag := rfl
  id := rfl
  classes := fun _ => Iff.rfl
  attributes := fun _ => Iff.rfl
  pseudo := rfl

end Tests

namespace Branch

variable {tree : Tree} {root : NodeId} {branch other : Branch}

/-- A branch whose segments may be made stronger or stay as they are goes no way that it did not. -/
theorem Strengthened.reached_sublist
    (strengthened : branch.Strengthened other)
    (context : NodeId) :
    (reached tree other context).Sublist (reached tree branch context) := by
  induction strengthened generalizing context with
  | nil =>
      exact List.Sublist.refl _
  | @cons segment stronger _ rest strongerBy _ inductionHypothesis =>
      obtain ⟨added, strongerBy⟩ := strongerBy
      have fewer :
          ((segment.combinator.targets tree context).filter (stronger.accepts tree)).Sublist
            ((segment.combinator.targets tree context).filter (segment.accepts tree)) := by
        refine List.monotone_filter_right _ fun node accepted => ?_
        rw [strongerBy.accepts_eq] at accepted
        exact (Bool.and_eq_true_iff.mp accepted).1
      rw [reached_cons, reached_cons, strongerBy.combinator]
      exact (fewer.flatMap (reached tree rest)).trans
        (List.Sublist.flatMap_right _ fun node _ => inductionHypothesis node)

/-- A branch goes the same ways whatever the order of the tests in its segments. -/
theorem reached_of_rearranged
    (rearranged : List.Forall₂ Segment.Rearranged branch other)
    (context : NodeId) :
    reached tree other context = reached tree branch context := by
  induction rearranged generalizing context with
  | nil =>
      rfl
  | @cons segment same _ _ rearranged _ inductionHypothesis =>
      have passing : same.accepts tree = segment.accepts tree :=
        funext fun _ => rearranged.accepts_eq
      rw [reached_cons, reached_cons, rearranged.combinator, passing]
      exact List.flatMap_congr fun node _ => inductionHypothesis node

/-- The ways that end at a node which passes the tests added at the end are left as they were. -/
theorem reached_concat_of_strengthenedBy
    {last added stronger : Segment}
    (strongerBy : last.StrengthenedBy added stronger)
    (context : NodeId) :
    reached tree (branch ++ [stronger]) context =
      (reached tree (branch ++ [last]) context).filter (added.accepts tree) := by
  rw [reached_append, reached_append, List.filter_flatMap]
  refine List.flatMap_congr fun node _ => ?_
  rw [reached_singleton, reached_singleton, List.filter_filter, strongerBy.combinator]
  refine List.filter_congr fun target _ => ?_
  rw [strongerBy.accepts_eq, Bool.and_comm]

end Branch

/--
A branch is followed in any tree and from any node. With the last segment made stronger it finds the
nodes that it found before and that pass the added tests, in the order of before. With any segments
made stronger it finds some of the nodes that it found before, none of them twice. With classes and
attribute tests rearranged or repeated it finds the same nodes in the same order.
-/
theorem walk_strengthened
    (tree : Tree)
    (root : NodeId)
    (front : Branch)
    (last : Segment) :
    let branch : Branch := front ++ [last]
    (∀ added stronger : Segment,
        last.StrengthenedBy added stronger →
          Branch.walk (front ++ [stronger]) tree root =
            (branch.walk tree root).filter (added.accepts tree)) ∧
      (∀ stronger : Branch,
        branch.Strengthened stronger →
          (stronger.walk tree root).Nodup ∧
            ∀ node ∈ stronger.walk tree root, node ∈ branch.walk tree root) ∧
      ∀ other : Branch,
        List.Forall₂ Segment.Rearranged branch other →
          other.walk tree root = branch.walk tree root := by
  intro branch
  refine ⟨?_, ?_, ?_⟩
  · intro added stronger strongerBy
    rw [Branch.walk_eq_eraseDups, Branch.walk_eq_eraseDups,
      Branch.reached_concat_of_strengthenedBy strongerBy, eraseDups_filter]
  · intro stronger strengthened
    rw [Branch.walk_eq_eraseDups, Branch.walk_eq_eraseDups]
    refine ⟨nodup_eraseDups _, fun node found => ?_⟩
    rw [List.mem_eraseDups] at found ⊢
    exact (strengthened.reached_sublist root).subset found
  · intro other rearranged
    rw [Branch.walk_eq_eraseDups, Branch.walk_eq_eraseDups,
      Branch.reached_of_rearranged rearranged]

/--
The later `b` is found first, behind the outer item. With the outer item out of the question it is
found behind the item that comes after the inner one, so the two change places.
-/
theorem walk_strengthened_items :
    let tree := built [
      .build 0 [
        .element "li" none [] [
          .element "li" none [("class", "x")] [],
          .element "b" none [("class", "k m")] []
        ],
        .element "li" none [("class", "x")] [],
        .element "b" none [("id", "z"), ("class", "m k")] []
      ]
    ]
    let item : Segment := { tag := some (.named "li") }
    let later : Segment :=
      { combinator := .sibling, tag := some (.named "b"), classes := ["k", "m"] }
    let added : Segment := { id := some "z" }
    let twice : Segment := { later with classes := ["m", "k", "m"] }
    Branch.walk [item, later] tree 0 = [5, 3] ∧
      later.StrengthenedBy added { later with id := some "z" } ∧
      Branch.walk [item, { later with id := some "z" }] tree 0 =
        (Branch.walk [item, later] tree 0).filter (added.accepts tree) ∧
      Branch.Strengthened [item, later] [{ item with classes := ["x"] }, later] ∧
      Branch.walk [{ item with classes := ["x"] }, later] tree 0 = [3, 5] ∧
      (∀ node ∈ Branch.walk [{ item with classes := ["x"] }, later] tree 0,
        node ∈ Branch.walk [item, later] tree 0) ∧
      List.Forall₂ Segment.Rearranged [item, later] [item, twice] ∧
      Branch.walk [item, twice] tree 0 = Branch.walk [item, later] tree 0 := by
  intro tree item later added twice
  obtain ⟨filtered, fewer, same⟩ := walk_strengthened tree 0 [item] later
  have withId : later.StrengthenedBy added { later with id := some "z" } := {
    combinator := rfl
    noTag := rfl
    tag := rfl
    id := Or.inr ⟨rfl, rfl⟩
    classes := by simp [later, added]
    attributes := by simp [later, added]
    pseudo := Or.inl ⟨rfl, rfl⟩
  }
  have withClass : item.StrengthenedBy { classes := ["x"] } { item with classes := ["x"] } := {
    combinator := rfl
    noTag := rfl
    tag := rfl
    id := Or.inl ⟨rfl, rfl⟩
    classes := by simp [item]
    attributes := by simp [item]
    pseudo := Or.inl ⟨rfl, rfl⟩
  }
  have strengthened :
      Branch.Strengthened [item, later] [{ item with classes := ["x"] }, later] :=
    .cons ⟨_, withClass⟩ (.cons ⟨{}, (Segment.Rearranged.refl later).strengthenedBy⟩ .nil)
  have reordered : later.Rearranged twice := {
    combinator := rfl
    tag := rfl
    id := rfl
    classes := by
      intro className
      simp only [twice, later, List.mem_cons, List.not_mem_nil]
      tauto
    attributes := by simp [twice]
    pseudo := rfl
  }
  have rearranged : List.Forall₂ Segment.Rearranged [item, later] [item, twice] :=
    .cons (Segment.Rearranged.refl item) (.cons reordered .nil)
  exact ⟨by decide +kernel, withId, filtered added _ withId, strengthened, by decide +kernel,
    (fewer _ strengthened).2, rearranged, same _ rearranged⟩

end MarkupQuery.Selector

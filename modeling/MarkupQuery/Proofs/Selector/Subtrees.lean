import MarkupQuery.Proofs.Selector.Levels
import MarkupQuery.Proofs.Selector.Scope
import MarkupQuery.Proofs.Tree.Changes

namespace MarkupQuery.Selector

/-!
# Queries see only their part of the tree

A branch that begins downwards never leaves the part below the root, and the tests on a node ask for
its element and for its place among its siblings. So two trees that are alike below the root answer
alike, however they differ elsewhere, and changes elsewhere do not change the answer.
-/

open MarkupQuery.Tree (built)

/-- The combinator leads to nodes below the context. -/
def Combinator.Down (combinator : Combinator) : Prop :=
  combinator = .descendant ∨ combinator = .child

section Alike

variable {tree other : Tree} {region : NodeId → Prop} {context node : NodeId}

/-- Where a step leads from a node of a region, a node of the region is the parent. -/
theorem ownedIn_of_stands
    (same : tree.SameIn other region)
    (linked : tree.Linked)
    {combinator : Combinator}
    (inside : region context)
    (beside : combinator.Down ∨ tree.OwnedIn region context)
    (stands : combinator.Stands tree context node) :
    tree.OwnedIn region node := by
  rcases beside with (rfl | rfl) | owned
  · exact same.ownedIn_of_above inside (linked.mem_ancestors_iff.mp stands)
  · exact ⟨context, stands, inside⟩
  · rcases below_or_follows_of_stands linked stands with above | follows
    · exact same.ownedIn_of_above inside above
    · exact linked.ownedIn_of_mem_followingSiblings owned follows

variable (same : tree.SameIn other region) (linked : tree.Linked) (otherLinked : other.Linked)

include same linked otherLinked

/-- A segment accepts the same nodes. -/
theorem Segment.accepts_eq_of_sameIn
    (segment : Segment)
    (owned : tree.OwnedIn region node) :
    segment.accepts other node = segment.accepts tree node := by
  simp only [Segment.accepts, Pseudo.accepts, same.element owned,
    same.place? linked otherLinked owned]

/-- Steps lead to the same nodes, sideways if the region holds the siblings too. -/
theorem Combinator.targets_eq_of_sameIn
    {combinator : Combinator}
    (inside : region context)
    (beside : combinator.Down ∨ tree.OwnedIn region context) :
    combinator.targets other context = combinator.targets tree context := by
  cases combinator with
  | descendant =>
      rw [targets, targets, same.descendants linked otherLinked inside]
      refine List.filter_congr fun id member => same.isElement ?_
      exact same.ownedIn_of_above inside (linked.mem_descendants_iff_above.mp member)
  | child =>
      exact same.elementChildren linked inside
  | adjacent =>
      have owned := beside.resolve_left (by simp [Down])
      obtain ⟨parent, isParent, parentInside⟩ := id owned
      rw [targets, targets, isParent,
        (same.parent?_eq_some_iff linked otherLinked parentInside).mpr isParent,
        same.nextElementSibling? linked otherLinked owned]
  | sibling =>
      have owned := beside.resolve_left (by simp [Down])
      obtain ⟨parent, isParent, parentInside⟩ := id owned
      rw [targets, targets, isParent,
        (same.parent?_eq_some_iff linked otherLinked parentInside).mpr isParent,
        same.followingSiblings linked otherLinked owned,
        same.filter_isElement_followingSiblings linked owned]

/-- If a first step stays in the region, so does all that follows it. -/
theorem Branch.reached_cons_eq_of_sameIn
    {segment : Segment}
    {rest : Branch}
    (inside : region context)
    (beside : segment.combinator.Down ∨ tree.OwnedIn region context)
    (onwards :
      ∀ next, tree.OwnedIn region next →
        Branch.reached other rest next = rest.reached tree next) :
    Branch.reached other (segment :: rest) context =
      Branch.reached tree (segment :: rest) context := by
  have owned : ∀ next ∈ segment.combinator.targets tree context, tree.OwnedIn region next :=
    fun next member =>
      ownedIn_of_stands same linked inside beside ((mem_targets_iff linked).mp member).2
  have passing :
      (segment.combinator.targets other context).filter (segment.accepts other) =
        (segment.combinator.targets tree context).filter (segment.accepts tree) := by
    rw [Combinator.targets_eq_of_sameIn same linked otherLinked inside beside]
    exact List.filter_congr fun next member =>
      segment.accepts_eq_of_sameIn same linked otherLinked (owned next member)
  rw [reached_cons, reached_cons, passing]
  exact List.flatMap_congr fun next member =>
    onwards next (owned next (List.mem_of_mem_filter member))

/-- From a node with its parent in the region a branch reaches the same nodes. -/
theorem Branch.reached_eq_of_ownedIn
    (branch : Branch)
    (owned : tree.OwnedIn region context) :
    Branch.reached other branch context = branch.reached tree context := by
  induction branch generalizing context with
  | nil =>
      rfl
  | cons segment rest inductionHypothesis =>
      exact reached_cons_eq_of_sameIn same linked otherLinked (same.closed owned) (Or.inr owned)
        fun _ => inductionHypothesis

/-- From a node of the region a branch that begins downwards reaches the same nodes. -/
theorem Branch.reached_eq_of_down
    {first : Segment}
    {rest : Branch}
    (inside : region context)
    (down : first.combinator.Down) :
    Branch.reached other (first :: rest) context =
      Branch.reached tree (first :: rest) context :=
  reached_cons_eq_of_sameIn same linked otherLinked inside (Or.inl down)
    fun _ owned => rest.reached_eq_of_ownedIn same linked otherLinked owned

omit same in
/-- In trees that are alike everywhere a branch reaches the same nodes. -/
theorem Branch.reached_eq_of_sameIn
    (same : tree.SameIn other fun _ => True)
    (branch : Branch)
    (context : NodeId) :
    Branch.reached other branch context = branch.reached tree context := by
  cases branch with
  | nil =>
      rfl
  | cons first rest =>
      cases owned : tree.parent? context with
      | some parent =>
          exact reached_eq_of_ownedIn same linked otherLinked _ ⟨parent, owned, trivial⟩
      | none =>
          -- A node without a parent has no siblings, in both trees.
          have otherOwned : other.parent? context = none := by
            refine Option.eq_none_iff_forall_ne_some.mpr fun parent isParent => ?_
            rw [same.parent?_eq_some_iff linked otherLinked trivial, owned] at isParent
            cases isParent
          by_cases down : first.combinator.Down
          · exact reached_eq_of_down same linked otherLinked trivial down
          · have nowhere :
                first.combinator.targets other context = [] ∧
                  first.combinator.targets tree context = [] := by
              cases combinator : first.combinator <;>
                simp_all [Combinator.Down, Combinator.targets]
            rw [reached_cons, reached_cons, nowhere.1, nowhere.2]
            rfl

end Alike

/--
In every tree that edits build and from every root, a selector whose branches all begin downwards
finds the same nodes in the same order after any changes that are made elsewhere, even if they move
the root.
-/
theorem select_eq_of_allElsewhere
    (edits : List Tree.Edit)
    (changes : List Tree.Change)
    (root : NodeId)
    (selector : String)
    (plan : Plan)
    (parsed : Plan.parse selector = .ok plan)
    (down :
      ∀ branch ∈ plan, ∀ first ∈ branch.head?,
        first.combinator = .descendant ∨ first.combinator = .child)
    (outside : (built edits).AllElsewhere root changes) :
    ∃ found,
      select (built edits) root selector = .ok found ∧
        select ((built edits).changeAll changes) root selector = .ok found := by
  have linked := Tree.linked_built edits
  obtain ⟨changedLinked, same⟩ := linked.sameBelow_changeAll outside
  have reached :
      ∀ branch ∈ plan,
        Branch.reached ((built edits).changeAll changes) branch root =
          branch.reached (built edits) root := by
    intro branch member
    obtain ⟨first, rest, rfl⟩ := Plan.exists_first_of_parse parsed member
    exact Branch.reached_eq_of_down same linked changedLinked (Tree.within_refl root)
      (down _ member first rfl)
  refine ⟨plan.select (built edits) root, select_of_parse parsed, ?_⟩
  rw [select_of_parse parsed, Plan.select_congr reached]

/--
A list is asked for its items. Its old parent gets another item and another class, the list is moved
into a new element, and then its old parent is moved as well.
-/
theorem select_eq_of_allElsewhere_moved :
    let edits : List Tree.Edit := [
      .build 0 [
        .element "main" none [] [
          .element "ul" none [] [
            .element "li" none [] [],
            .element "li" none [("class", "x")] [.text "b"],
            .element "li" none [] []
          ]
        ],
        .element "p" none [] []
      ]
    ]
    let changes : List Tree.Change := [
      .add (.element (.named "div")),
      .append 7 8,
      .addElement 1 "li" none [("class", "x")],
      .revise 1 fun _ => .element { tag := "main", attributes := Attributes.empty.set "class" "y" },
      .append 8 2,
      .append 8 1
    ]
    let plan : Plan := [
      [{ tag := some (.named "li"), classes := ["x"], pseudo := some ⟨.nthChild, some "2"⟩ }],
      [
        { combinator := .child, tag := some (.named "li") },
        { combinator := .sibling, pseudo := some ⟨.lastChild, none⟩ }
      ]
    ]
    Plan.parse "li.x:nth-child(2), > li ~ :last-child" = .ok plan ∧
      (built edits).AllElsewhere 2 changes ∧
      (built edits).parent? 2 ≠ ((built edits).changeAll changes).parent? 2 ∧
      select (built edits) 2 "li.x:nth-child(2), > li ~ :last-child" = .ok [4, 6] ∧
      select ((built edits).changeAll changes) 2 "li.x:nth-child(2), > li ~ :last-child" =
        .ok [4, 6] := by
  intro edits changes plan
  have parsed : Plan.parse "li.x:nth-child(2), > li ~ :last-child" = .ok plan := by
    decide +kernel
  have outside : (built edits).AllElsewhere 2 changes := by
    decide +kernel
  have before :
      select (built edits) 2 "li.x:nth-child(2), > li ~ :last-child" = .ok [4, 6] := by
    decide +kernel
  obtain ⟨found, answer, after⟩ :=
    select_eq_of_allElsewhere edits changes 2 _ plan parsed (by decide) outside
  rw [before, Except.ok.injEq] at answer
  subst answer
  exact ⟨parsed, outside, by decide +kernel, before, after⟩

end MarkupQuery.Selector

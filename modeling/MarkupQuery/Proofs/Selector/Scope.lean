import MarkupQuery.Proofs.Selector.Lists
import MarkupQuery.Proofs.Selector.Parsing
import MarkupQuery.Proofs.Selector.Routes
import MarkupQuery.Proofs.Tree.Ancestry

namespace MarkupQuery.Selector

/-!
# The scope of a query

Some combinators lead sideways, and they may stand anywhere in a branch. Still a query never leaves
the part of the tree that its first step enters: below the root, or at the siblings that follow it
and below these. What precedes the root or stands above it is out of reach, and so is the root.
-/

open MarkupQuery.Tree (built)

/-- Where the nodes of a branch that begins with a combinator stand, seen from the root. -/
def Combinator.Scope
    (first : Combinator)
    (tree : Tree)
    (root node : NodeId) : Prop :=
  match first with
  | .descendant | .child => node ∈ tree.descendants root
  | .adjacent | .sibling =>
      ∃ sibling ∈ tree.followingSiblings root,
        node = sibling ∨ node ∈ tree.descendants sibling

section Steps

variable {tree : Tree} {combinator first : Combinator} {context node root upper : NodeId}

/-- The part at a following sibling, as the parts of a tree are compared. -/
theorem mem_part_iff (linked : tree.Linked) :
    (node = upper ∨ node ∈ tree.descendants upper) ↔ tree.Within node upper := by
  rw [linked.mem_descendants_iff_above, Tree.within_iff]

/-- A step leads to a node below the context or to a sibling that follows it. -/
theorem below_or_follows_of_stands
    (linked : tree.Linked)
    (stands : combinator.Stands tree context node) :
    tree.Above context node ∨ node ∈ tree.followingSiblings context := by
  cases combinator with
  | descendant =>
      exact Or.inl (linked.mem_ancestors_iff.mp stands)
  | child =>
      exact Or.inl (.single stands)
  | adjacent =>
      obtain ⟨between, before, _⟩ := stands
      obtain ⟨_, _, _, owned, _⟩ := id before
      exact Or.inr ((mem_followingSiblings_iff linked owned).mpr ⟨between, before⟩)
  | sibling =>
      obtain ⟨between, before⟩ := stands
      obtain ⟨_, _, _, owned, _⟩ := id before
      exact Or.inr ((mem_followingSiblings_iff linked owned).mpr ⟨between, before⟩)

/-- The first step of a branch leads into its scope. -/
theorem scope_of_stands
    (linked : tree.Linked)
    (stands : first.Stands tree root node) :
    first.Scope tree root node := by
  cases first with
  | descendant =>
      exact linked.mem_descendants_iff.mpr stands
  | child =>
      exact linked.mem_descendants_iff_above.mpr (.single stands)
  | adjacent =>
      obtain ⟨between, before, _⟩ := stands
      obtain ⟨_, _, _, owned, _⟩ := id before
      exact ⟨node, (mem_followingSiblings_iff linked owned).mpr ⟨between, before⟩, Or.inl rfl⟩
  | sibling =>
      obtain ⟨between, before⟩ := stands
      obtain ⟨_, _, _, owned, _⟩ := id before
      exact ⟨node, (mem_followingSiblings_iff linked owned).mpr ⟨between, before⟩, Or.inl rfl⟩

/-- No step leads out of what stands below a node. -/
theorem above_of_stands
    (linked : tree.Linked)
    (above : tree.Above upper context)
    (stands : combinator.Stands tree context node) :
    tree.Above upper node := by
  rcases below_or_follows_of_stands linked stands with below | follows
  · exact below.trans above
  · -- A sibling has the parent of the context, which is the upper node or stands below it.
    obtain ⟨parent, owned, siblingOwned⟩ :=
      linked.exists_parent_of_mem_followingSiblings follows
    exact (Tree.above_iff_of_parent siblingOwned).mpr
      ((Tree.above_iff_of_parent owned).mp above)

/-- No step leads out of the scope of a branch. -/
theorem Combinator.Scope.step
    (linked : tree.Linked)
    (inside : first.Scope tree root context)
    (stands : combinator.Stands tree context node) :
    first.Scope tree root node := by
  have below :
      context ∈ tree.descendants root → node ∈ tree.descendants root := by
    simp only [linked.mem_descendants_iff_above]
    exact fun above => above_of_stands linked above stands
  have beside :
      (∃ sibling ∈ tree.followingSiblings root,
          context = sibling ∨ context ∈ tree.descendants sibling) →
        ∃ sibling ∈ tree.followingSiblings root,
          node = sibling ∨ node ∈ tree.descendants sibling := by
    rintro ⟨sibling, follows, rfl | under⟩
    · rcases below_or_follows_of_stands linked stands with down | aside
      · exact ⟨context, follows, Or.inr (linked.mem_descendants_iff_above.mpr down)⟩
      · exact ⟨node, linked.followingSiblings_trans follows aside, Or.inl rfl⟩
    · rw [linked.mem_descendants_iff_above] at under
      have down := above_of_stands linked under stands
      exact ⟨sibling, follows, Or.inr (linked.mem_descendants_iff_above.mpr down)⟩
  cases first with
  | descendant =>
      exact below inside
  | child =>
      exact below inside
  | adjacent =>
      exact beside inside
  | sibling =>
      exact beside inside

end Steps

/-- A route that is in the scope somewhere ends in it, at an element if it has a step. -/
theorem Route.scope
    {tree : Tree}
    (linked : tree.Linked)
    {first : Combinator}
    {root context last : NodeId}
    {rest : Branch}
    {nodes : List NodeId}
    (route : Route tree context rest nodes)
    (ends : (context :: nodes).getLast? = some last)
    (inside : first.Scope tree root context)
    (element : tree.isElement context = true) :
    tree.isElement last = true ∧ first.Scope tree root last := by
  induction route with
  | done context =>
      have here : context = last := by
        simpa using ends
      exact here ▸ ⟨element, inside⟩
  | step accepted stands route inductionHypothesis =>
      rw [List.getLast?_cons_cons] at ends
      exact inductionHypothesis ends (inside.step linked stands)
        (isElement_of_accepts accepted)

/-- A branch finds elements in the scope of its first combinator. -/
theorem scope_of_mem_walk
    {tree : Tree}
    (linked : tree.Linked)
    {first : Segment}
    {rest : Branch}
    {root node : NodeId}
    (found : node ∈ Branch.walk (first :: rest) tree root) :
    tree.isElement node = true ∧ first.combinator.Scope tree root node := by
  rw [Branch.walk_eq_eraseDups, List.mem_eraseDups, mem_reached_iff linked] at found
  obtain ⟨nodes, route, ends⟩ := found
  cases route with
  | step accepted stands route =>
      rw [List.getLast?_cons_cons] at ends
      exact route.scope linked ends (scope_of_stands linked stands)
        (isElement_of_accepts accepted)

section Outside

variable {tree : Tree} {first : Combinator} {root node sibling : NodeId}

/-- What is in a scope stands below the root or in the part at a sibling that follows it. -/
theorem Combinator.Scope.above_or_follows
    (linked : tree.Linked)
    (inside : first.Scope tree root node) :
    tree.Above root node ∨
      ∃ later ∈ tree.followingSiblings root, tree.Within node later := by
  have beside
      (part :
        ∃ later ∈ tree.followingSiblings root, node = later ∨ node ∈ tree.descendants later) :
      ∃ later ∈ tree.followingSiblings root, tree.Within node later := by
    simpa only [mem_part_iff linked] using part
  cases first with
  | descendant =>
      exact Or.inl (linked.mem_descendants_iff_above.mp inside)
  | child =>
      exact Or.inl (linked.mem_descendants_iff_above.mp inside)
  | adjacent =>
      exact Or.inr (beside inside)
  | sibling =>
      exact Or.inr (beside inside)

/-- No scope holds the root or a node above it. -/
theorem Combinator.Scope.not_within
    (linked : tree.Linked)
    (inside : first.Scope tree root node) :
    ¬ tree.Within root node := by
  intro back
  rcases inside.above_or_follows linked with above | ⟨later, follows, underLater⟩
  · exact linked.acyclic root (.trans_right back above)
  · -- The root would stand in the part at its own sibling.
    obtain ⟨_, owned, laterOwned⟩ := linked.exists_parent_of_mem_followingSiblings follows
    exact linked.ne_of_mem_followingSiblings follows
      (linked.siblings_eq_of_within laterOwned owned (back.trans underLater)
        (Tree.within_refl root))

/-- No scope holds a sibling that precedes the root, or anything below one. -/
theorem Combinator.Scope.not_within_preceding
    (linked : tree.Linked)
    (inside : first.Scope tree root node)
    (precedes : sibling ∈ tree.precedingSiblings root) :
    ¬ tree.Within node sibling := by
  rw [linked.mem_precedingSiblings_iff] at precedes
  -- The node would stand in the parts at two different children of one node.
  intro under
  rcases inside.above_or_follows linked with above | ⟨later, follows, underLater⟩
  · obtain ⟨_, owned, rootOwned⟩ := linked.exists_parent_of_mem_followingSiblings precedes
    exact linked.ne_of_mem_followingSiblings precedes
      (linked.siblings_eq_of_within rootOwned owned above.within under)
  · have laterFollows := linked.followingSiblings_trans precedes follows
    obtain ⟨_, owned, laterOwned⟩ :=
      linked.exists_parent_of_mem_followingSiblings laterFollows
    exact linked.ne_of_mem_followingSiblings laterFollows
      (linked.siblings_eq_of_within laterOwned owned underLater under)

end Outside

/-- Every branch of a plan has a segment. -/
theorem Plan.exists_first_of_parse
    {selector : String}
    {plan : Plan}
    (parsed : Plan.parse selector = .ok plan)
    {branch : Branch}
    (member : branch ∈ plan) :
    ∃ first rest, branch = first :: rest := by
  obtain ⟨_, read⟩ := Plan.parse_eq_ok_iff.mp parsed
  have readInTurn := mapM_parse_eq_ok_iff.mp read
  obtain ⟨index, inside, rfl⟩ := List.getElem_of_mem member
  have branchRead := readInTurn.get (readInTurn.length_eq.symm ▸ inside) inside
  exact List.exists_cons_of_ne_nil (Selector.parse_eq_ok_iff.mp branchRead).2.2.2

/--
In every tree that edits build and from every root, a branch of a selector finds elements only, all
of them in the scope of its first combinator, whatever combinators follow. What the selector finds
is what its branches find, so it is never the root, never a node above it, never a sibling that
precedes it and nothing below such a sibling.
-/
theorem select_scope
    (edits : List Tree.Edit)
    (root : NodeId)
    (selector : String)
    (plan : Plan)
    (parsed : Plan.parse selector = .ok plan) :
    (∀ branch ∈ plan, ∃ first rest,
        branch = first :: rest ∧
          ∀ node ∈ branch.walk (built edits) root,
            (built edits).isElement node = true ∧
              first.combinator.Scope (built edits) root node) ∧
      ∃ found,
        select (built edits) root selector = .ok found ∧
          (∀ node, node ∈ found ↔ ∃ branch ∈ plan, node ∈ branch.walk (built edits) root) ∧
          ∀ node ∈ found,
            node ≠ root ∧
              node ∉ (built edits).ancestors root ∧
              ∀ sibling ∈ (built edits).precedingSiblings root,
                node ≠ sibling ∧ node ∉ (built edits).descendants sibling := by
  have linked := Tree.linked_built edits
  have walked :
      ∀ node, node ∈ plan.select (built edits) root ↔
        ∃ branch ∈ plan, node ∈ branch.walk (built edits) root := by
    intro node
    simp only [Plan.mem_select_iff, Branch.walk_eq_eraseDups, List.mem_eraseDups]
  refine ⟨?_, plan.select (built edits) root, select_of_parse parsed, walked, ?_⟩
  · intro branch member
    obtain ⟨first, rest, rfl⟩ := Plan.exists_first_of_parse parsed member
    exact ⟨first, rest, rfl, fun node found => scope_of_mem_walk linked found⟩
  · intro node found
    obtain ⟨branch, member, here⟩ := (walked node).mp found
    obtain ⟨first, rest, rfl⟩ := Plan.exists_first_of_parse parsed member
    obtain ⟨_, inside⟩ := scope_of_mem_walk linked here
    have notAbove := inside.not_within linked
    rw [Tree.within_iff, not_or] at notAbove
    refine ⟨fun same => notAbove.1 same.symm, ?_, ?_⟩
    · rw [linked.mem_ancestors_iff]
      exact notAbove.2
    · intro sibling precedes
      have notUnder := inside.not_within_preceding linked precedes
      rw [← mem_part_iff linked, not_or] at notUnder
      exact notUnder

/--
A list in the middle of others: from its second item nothing is found but what follows, although
the branches go down, aside and down again.
-/
theorem select_scope_items :
    let edits : List Tree.Edit := [
      .build 0 [
        .element "ul" none [] [
          .element "li" none [] [.element "b" none [] []],
          .element "li" none [] [.element "b" none [] [], .element "i" none [] []],
          .element "li" none [] [.element "b" none [] [], .element "i" none [] []]
        ]
      ]
    ]
    let plan : Plan := [
      [
        { combinator := .sibling, tag := some (.named "li") },
        { tag := some (.named "b") },
        { combinator := .adjacent, tag := some .universal }
      ],
      [
        { tag := some (.named "b") },
        { combinator := .sibling, tag := some (.named "i") }
      ]
    ]
    Plan.parse "~ li b + *, b ~ i" = .ok plan ∧
      select (built edits) 4 "~ li b + *, b ~ i" = .ok [9, 6] ∧
      ∀ node ∈ [9, 6],
        node ≠ 4 ∧
          node ∉ (built edits).ancestors 4 ∧
          ∀ sibling ∈ (built edits).precedingSiblings 4,
            node ≠ sibling ∧ node ∉ (built edits).descendants sibling := by
  intro edits plan
  have parsed : Plan.parse "~ li b + *, b ~ i" = .ok plan := by
    decide +kernel
  have selected : select (built edits) 4 "~ li b + *, b ~ i" = .ok [9, 6] := by
    decide +kernel
  obtain ⟨_, found, answer, _, excluded⟩ := select_scope edits 4 _ plan parsed
  rw [selected, Except.ok.injEq] at answer
  subst answer
  exact ⟨parsed, selected, excluded⟩

end MarkupQuery.Selector

import Mathlib.Data.List.Chain
import MarkupQuery.Proofs.Selector.Levels
import MarkupQuery.Proofs.Selector.Scope
import MarkupQuery.Proofs.Tree.DocumentOrder

namespace MarkupQuery.Selector

/-!
# Descents find in document order

A search finds nodes in the order of the nodes that it starts from, which in general is not the
order of the document. A branch that only goes down keeps to it all the same: of two starting nodes
either one is below the other, and then it leads to nothing new, or everything below the first
stands in front of everything below the second.
-/

open MarkupQuery.Tree (built)

/--
A node is the last of several that pass the segments of a branch in turn, each of them below the one
before and all of them below the root.
-/
def DescendsTo
    (tree : Tree)
    (branch : Branch)
    (root node : NodeId) : Prop :=
  ∃ uppers : List NodeId,
    (∀ upper ∈ uppers, upper ∈ tree.descendants root) ∧
      (uppers ++ [node]).IsChain (fun upper lower => upper ∈ tree.ancestors lower) ∧
      List.Forall₂ (fun segment here => segment.accepts tree here = true)
        branch (uppers ++ [node])

section Order

variable {tree : Tree}

/-- What is below some nodes of an unfolded list is found in the order of the list. -/
theorem eraseDups_flatMap_descendants_sublist
    {contexts order : List NodeId}
    (unfolded : tree.Unfolded order)
    (ordered : contexts.Sublist order) :
    (contexts.flatMap tree.descendants).eraseDups.Sublist order := by
  induction order generalizing contexts with
  | nil =>
      rw [List.sublist_nil.mp ordered]
      exact List.nil_sublist _
  | cons node after inductionHypothesis =>
      obtain ⟨⟨behind, shape⟩, rest⟩ := unfolded
      cases ordered with
      | cons _ ordered =>
          exact (inductionHypothesis rest ordered).cons node
      | @cons_cons contexts _ _ ordered =>
          -- What is below the node comes first; of the others only what is not below it is new.
          have later :
              (((contexts.flatMap tree.descendants).removeAll
                  (tree.descendants node)).eraseDups).Sublist behind := by
            have found := inductionHypothesis rest ordered
            rw [← shape] at found
            rw [List.removeAll, eraseDups_filter]
            apply (found.filter _).trans
            have nothing :
                (tree.descendants node).filter
                    (fun other => !(tree.descendants node).elem other) = [] := by
              simp
            rw [List.filter_append, nothing]
            exact List.filter_sublist
          rw [List.flatMap_cons, List.eraseDups_append, ← shape]
          exact ((eraseDups_sublist _).append later).cons node

/-- A level in the order of an unfolded list leads to another one. -/
theorem Segment.advance_sublist
    {segment : Segment}
    (descends : segment.combinator = .descendant)
    {level order : List NodeId}
    (unfolded : tree.Unfolded order)
    (ordered : level.Sublist order) :
    (segment.advance tree level).Sublist order := by
  have below := eraseDups_flatMap_descendants_sublist unfolded ordered
  have passing :
      segment.advance tree level =
        ((level.flatMap tree.descendants).eraseDups.filter tree.isElement).filter
          (segment.accepts tree) := by
    simp only [advance, descends, Combinator.targets, ← List.filter_flatMap, eraseDups_filter]
  rw [passing]
  exact (List.filter_sublist.trans List.filter_sublist).trans below

theorem Branch.advance_sublist
    {branch : Branch}
    (descends : ∀ segment ∈ branch, segment.combinator = .descendant)
    {level order : List NodeId}
    (unfolded : tree.Unfolded order)
    (ordered : level.Sublist order) :
    (branch.advance tree level).Sublist order := by
  induction branch generalizing level with
  | nil =>
      exact ordered
  | cons segment rest inductionHypothesis =>
      obtain ⟨here, later⟩ := List.forall_mem_cons.mp descends
      exact inductionHypothesis later (segment.advance_sublist here unfolded ordered)

/-- A branch that only goes down finds nodes in document order. -/
theorem Branch.walk_sublist_descendants
    (linked : tree.Linked)
    {branch : Branch}
    (some : branch ≠ [])
    (descends : ∀ segment ∈ branch, segment.combinator = .descendant)
    (root : NodeId) :
    (branch.walk tree root).Sublist (tree.descendants root) := by
  obtain ⟨first, rest, rfl⟩ := List.exists_cons_of_ne_nil some
  obtain ⟨here, later⟩ := List.forall_mem_cons.mp descends
  have start : [root].eraseDups = [root] :=
    eraseDups_eq_self (List.nodup_singleton root)
  -- The root itself is in no list of what is below it, but its list is what the first step sees.
  have firstLevel : (first.advance tree [root]).Sublist (tree.descendants root) := by
    have once := eraseDups_eq_self (linked.nodup_descendants root)
    simp only [Segment.advance, here, Combinator.targets, List.flatMap_singleton,
      eraseDups_filter, once]
    exact List.filter_sublist.trans List.filter_sublist
  rw [Branch.walk_eq_eraseDups, ← List.flatMap_singleton (Branch.reached tree _) root,
    ← Branch.advance_eraseDups, start]
  exact Branch.advance_sublist later (linked.unfolded_descendants root) firstLevel

end Order

section Descents

variable {tree : Tree} {branch : Branch} {root node : NodeId}

/-- A route that only goes down is a line of nodes below each other, one for each segment. -/
theorem route_iff_of_descends
    (descends : ∀ segment ∈ branch, segment.combinator = .descendant)
    {nodes : List NodeId} :
    Route tree root branch nodes ↔
      (root :: nodes).IsChain (fun upper lower => upper ∈ tree.ancestors lower) ∧
        List.Forall₂ (fun segment here => segment.accepts tree here = true) branch nodes := by
  induction branch generalizing root nodes with
  | nil =>
      constructor
      · rintro ⟨⟩
        simp
      · rintro ⟨_, none⟩
        cases none
        exact .done root
  | cons segment rest inductionHypothesis =>
      obtain ⟨here, later⟩ := List.forall_mem_cons.mp descends
      constructor
      · intro route
        cases route with
        | step accepted stands onwards =>
            obtain ⟨line, passing⟩ := (inductionHypothesis later).mp onwards
            rw [here] at stands
            exact ⟨List.isChain_cons_cons.mpr ⟨stands, line⟩, .cons accepted passing⟩
      · rintro ⟨line, passing⟩
        cases passing with
        | cons accepted passing =>
            obtain ⟨stands, line⟩ := List.isChain_cons_cons.mp line
            have onwards := (inductionHypothesis later).mpr ⟨line, passing⟩
            exact .step accepted (here ▸ stands) onwards

/-- Of nodes that are below each other the first is above all others. -/
theorem above_of_isChain
    (linked : tree.Linked)
    {nodes : List NodeId}
    (line : (root :: nodes).IsChain fun upper lower => upper ∈ tree.ancestors lower) :
    ∀ lower ∈ nodes, tree.Above root lower := by
  induction nodes generalizing root with
  | nil =>
      simp
  | cons next nodes inductionHypothesis =>
      obtain ⟨stands, onwards⟩ := List.isChain_cons_cons.mp line
      have above := linked.mem_ancestors_iff.mp stands
      intro lower member
      rcases List.mem_cons.mp member with rfl | further
      · exact above
      · exact (inductionHypothesis onwards lower further).trans above

/-- A branch that only goes down leads to the nodes that stand at the end of such a line. -/
theorem leadsTo_iff_descendsTo
    (linked : tree.Linked)
    (some : branch ≠ [])
    (descends : ∀ segment ∈ branch, segment.combinator = .descendant) :
    LeadsTo tree branch root node ↔
      node ∈ tree.descendants root ∧ DescendsTo tree branch root node := by
  constructor
  · rintro ⟨nodes, route, last⟩
    obtain ⟨line, passing⟩ := (route_iff_of_descends descends).mp route
    have notEmpty : nodes ≠ [] := by
      rintro rfl
      exact some (List.forall₂_nil_right_iff.mp passing)
    obtain ⟨uppers, rfl⟩ : ∃ uppers, nodes = uppers ++ [node] := by
      rw [List.getLast?_cons_of_ne_nil notEmpty] at last
      exact List.getLast?_eq_some_iff.mp last
    have below : ∀ lower ∈ uppers ++ [node], lower ∈ tree.descendants root :=
      fun lower member =>
        linked.mem_descendants_iff_above.mpr (above_of_isChain linked line lower member)
    exact ⟨below node (by simp), uppers, fun upper member => below upper (by simp [member]),
      (List.isChain_cons.mp line).2, passing⟩
  · rintro ⟨below, uppers, inside, line, passing⟩
    have stands : ∀ next ∈ (uppers ++ [node]).head?, root ∈ tree.ancestors next := by
      intro next first
      rw [← linked.mem_descendants_iff]
      rcases List.mem_append.mp (List.mem_of_mem_head? first) with upper | last
      · exact inside next upper
      · exact List.mem_singleton.mp last ▸ below
    exact ⟨uppers ++ [node],
      (route_iff_of_descends descends).mpr ⟨List.isChain_cons.mpr ⟨stands, line⟩, passing⟩,
      by rw [← List.cons_append, List.getLast?_concat]⟩

end Descents

/-- A selector of a single segment finds what passes it below the root, in document order. -/
theorem select_of_parse_segment
    {tree : Tree}
    (linked : tree.Linked)
    {selector : String}
    {segment : Segment}
    (parsed : Plan.parse selector = .ok [[segment]])
    (descends : segment.combinator = .descendant)
    (root : NodeId) :
    select tree root selector = .ok ((tree.descendants root).filter (segment.accepts tree)) := by
  have elements (node : NodeId) :
      (segment.accepts tree node && tree.isElement node) = segment.accepts tree node := by
    rw [Bool.and_eq_left_iff_imp]
    exact isElement_of_accepts
  have reached :
      Branch.reached tree [segment] root =
        (tree.descendants root).filter (segment.accepts tree) := by
    rw [Branch.reached_singleton, descends, Combinator.targets, List.filter_filter]
    simp only [elements]
  have once := eraseDups_eq_self (linked.nodup_descendants root)
  rw [select_of_parse parsed, Plan.select_eq_eraseDups, List.flatMap_singleton, reached,
    eraseDups_filter, once]

/-- The selector of all elements. -/
theorem parse_universal :
    Plan.parse "*" = .ok [[{ tag := some .universal }]] := by
  decide +kernel

/-- The selector of all elements finds those below the root in document order. -/
theorem select_universal
    {tree : Tree}
    (linked : tree.Linked)
    (root : NodeId) :
    select tree root "*" = .ok ((tree.descendants root).filter tree.isElement) := by
  have everyElement :
      Segment.accepts { tag := some .universal } tree = tree.isElement := by
    funext node
    cases element : tree.element? node <;>
      simp [Segment.accepts, Segment.acceptsElement, TagTest.accepts, acceptsClasses,
        Tree.isElement, element]
  rw [select_of_parse_segment linked parse_universal rfl root, everyElement]

/--
In every tree that edits build and from every root, the list of everything below the root is in
document order without repetitions, and a selector of one branch that only goes down finds a sublist
of it, namely the elements at which a line of nodes below each other ends that pass its segments.
The selector of all elements finds every element of the list.
-/
theorem select_descents
    (edits : List Tree.Edit)
    (root : NodeId) :
    (∀ id,
        (built edits).descendants id =
          ((built edits).children id).flatMap fun child =>
            child :: (built edits).descendants child) ∧
      ((built edits).descendants root).Nodup ∧
      (∀ (selector : String) (branch : Branch),
        Plan.parse selector = .ok [branch] →
          (∀ segment ∈ branch, segment.combinator = .descendant) →
            ∃ found,
              select (built edits) root selector = .ok found ∧
                found.Sublist ((built edits).descendants root) ∧
                ∀ node, node ∈ found ↔
                  node ∈ (built edits).descendants root ∧
                    (built edits).isElement node = true ∧
                    DescendsTo (built edits) branch root node) ∧
      select (built edits) root "*" =
        .ok (((built edits).descendants root).filter (built edits).isElement) := by
  have linked := Tree.linked_built edits
  refine ⟨linked.descendants_eq, linked.nodup_descendants root, ?_, select_universal linked root⟩
  intro selector branch parsed descends
  obtain ⟨first, rest, shape⟩ := Plan.exists_first_of_parse parsed (List.mem_singleton_self branch)
  have some : branch ≠ [] := by
    simp [shape]
  have walked :
      Plan.select [branch] (built edits) root = branch.walk (built edits) root := by
    rw [Plan.select_eq_eraseDups, List.flatMap_singleton, Branch.walk_eq_eraseDups]
  refine ⟨branch.walk (built edits) root, walked ▸ select_of_parse parsed,
    Branch.walk_sublist_descendants linked some descends root, ?_⟩
  intro node
  have leads :
      node ∈ branch.walk (built edits) root ↔
        node ∈ (built edits).descendants root ∧ DescendsTo (built edits) branch root node := by
    rw [Branch.walk_eq_eraseDups, List.mem_eraseDups, mem_reached_iff linked,
      leadsTo_iff_descendsTo linked some descends]
  constructor
  · intro found
    obtain ⟨below, line⟩ := leads.mp found
    rw [shape] at found
    exact ⟨below, (scope_of_mem_walk linked found).1, line⟩
  · rintro ⟨below, _, line⟩
    exact leads.mpr ⟨below, line⟩

/--
Two spans in nested divisions and one further on: the inner division leads to the first span once
more, and the three are found in document order.
-/
theorem select_descents_nested :
    let edits : List Tree.Edit := [
      .build 0 [
        .element "section" none [] [
          .element "div" none [] [
            .element "div" none [] [.element "span" none [] []],
            .text "gap",
            .element "span" none [] []
          ],
          .element "div" none [] [.element "p" none [] [.element "span" none [] []]]
        ]
      ]
    ]
    let branch : Branch := [{ tag := some (.named "div") }, { tag := some (.named "span") }]
    Plan.parse "div span" = .ok [branch] ∧
      (∀ segment ∈ branch, segment.combinator = .descendant) ∧
      select (built edits) 1 "div span" = .ok [4, 6, 9] ∧
      [4, 6, 9].Sublist ((built edits).descendants 1) ∧
      ∀ node, node ∈ [4, 6, 9] ↔
        node ∈ (built edits).descendants 1 ∧
          (built edits).isElement node = true ∧
          DescendsTo (built edits) branch 1 node := by
  intro edits branch
  have parsed : Plan.parse "div span" = .ok [branch] := by
    decide +kernel
  have descends : ∀ segment ∈ branch, segment.combinator = .descendant := by
    decide
  have selected : select (built edits) 1 "div span" = .ok [4, 6, 9] := by
    decide +kernel
  obtain ⟨_, _, inOrder, _⟩ := select_descents edits 1
  obtain ⟨found, answer, ordered, described⟩ := inOrder "div span" branch parsed descends
  rw [selected, Except.ok.injEq] at answer
  subst answer
  exact ⟨parsed, descends, selected, ordered, described⟩

end MarkupQuery.Selector

import MarkupQuery.Proofs.Selector.Found
import MarkupQuery.Proofs.Tree.Traversal
import MarkupQuery.Selector.Engine

namespace MarkupQuery.Selector

/-!
# Routes through a tree

A search walks forwards from node to node and enumerates targets. Here a branch is read the other
way: a node is an answer if a route leads to it on which every node passes its segment and stands
where the segment's combinator asks, said by parent links and places in child lists alone. The two
readings agree in every tree that edits build.
-/

open MarkupQuery.Tree (built)

/-- One child stands somewhere before another in the same child list, with others between them. -/
def StandsBefore
    (tree : Tree)
    (first : NodeId)
    (between : List NodeId)
    (second : NodeId) : Prop :=
  ∃ parent earlier later,
    tree.parent? first = some parent ∧
      tree.parent? second = some parent ∧
      tree.children parent = earlier ++ first :: (between ++ second :: later)

/-- Where a node has to stand, seen from the node matched before it. -/
def Combinator.Stands
    (combinator : Combinator)
    (tree : Tree)
    (context node : NodeId) : Prop :=
  match combinator with
  | .descendant => context ∈ tree.ancestors node
  | .child => tree.parent? node = some context
  | .adjacent =>
      ∃ between,
        StandsBefore tree context between node ∧
          ∀ other ∈ between, tree.isElement other = false
  | .sibling => ∃ between, StandsBefore tree context between node

/-- The nodes after the first of a route through a branch, one for each segment. -/
inductive Route (tree : Tree) : NodeId → Branch → List NodeId → Prop where
  | done (context : NodeId) :
      Route tree context [] []
  | step
      {context node : NodeId}
      {segment : Segment}
      {rest : Branch}
      {nodes : List NodeId} :
      segment.accepts tree node = true →
      segment.combinator.Stands tree context node →
      Route tree node rest nodes →
      Route tree context (segment :: rest) (node :: nodes)

/-- A route through a branch leads from one node to another. -/
def LeadsTo
    (tree : Tree)
    (branch : Branch)
    (start node : NodeId) : Prop :=
  ∃ nodes, Route tree start branch nodes ∧ (start :: nodes).getLast? = some node

section Targets

variable {tree : Tree}

/-- The later siblings of a child are those that it stands before. -/
theorem mem_followingSiblings_iff
    (linked : tree.Linked)
    {parent context node : NodeId}
    (owned : tree.parent? context = some parent) :
    node ∈ tree.followingSiblings context ↔
      ∃ between, StandsBefore tree context between node := by
  obtain ⟨earlier, later, shape⟩ := linked.exists_children_eq owned
  rw [linked.followingSiblings_eq shape]
  constructor
  · intro member
    obtain ⟨between, behind, laterShape⟩ := List.append_of_mem member
    have listed : node ∈ tree.children parent := by
      simp [shape, member]
    exact ⟨between, parent, earlier, behind, owned, linked.mem_children_iff.mp listed,
      by rw [shape, laterShape]⟩
  · rintro ⟨between, other, before, behind, otherOwns, _, otherShape⟩
    have rest := linked.followingSiblings_eq otherShape
    rw [linked.followingSiblings_eq shape] at rest
    simp [rest]

/-- The nearest later element is the one with no element between. -/
theorem nextElementSibling?_eq_some_iff
    (linked : tree.Linked)
    {parent context node : NodeId}
    (owned : tree.parent? context = some parent) :
    tree.nextElementSibling? context = some node ↔
      tree.isElement node = true ∧
        ∃ between,
          StandsBefore tree context between node ∧
            ∀ other ∈ between, tree.isElement other = false := by
  obtain ⟨earlier, later, shape⟩ := linked.exists_children_eq owned
  rw [Tree.nextElementSibling?, linked.followingSiblings_eq shape,
    List.find?_eq_some_iff_append]
  constructor
  · rintro ⟨element, between, behind, laterShape, none⟩
    have listed : node ∈ tree.children parent := by
      simp [shape, laterShape]
    exact ⟨element, between,
      ⟨parent, earlier, behind, owned, linked.mem_children_iff.mp listed,
        by rw [shape, laterShape]⟩,
      fun other member => by simpa using none other member⟩
  · rintro ⟨element, between, ⟨other, before, behind, _, _, otherShape⟩, none⟩
    have rest := linked.followingSiblings_eq otherShape
    rw [linked.followingSiblings_eq shape] at rest
    exact ⟨element, between, behind, rest,
      fun other member => by simpa using none other member⟩

/-- The targets of a combinator are the elements that stand where it asks. -/
theorem mem_targets_iff
    (linked : tree.Linked)
    {combinator : Combinator}
    {context node : NodeId} :
    node ∈ combinator.targets tree context ↔
      tree.isElement node = true ∧ combinator.Stands tree context node := by
  cases combinator with
  | descendant =>
      simp [Combinator.targets, Combinator.Stands, linked.mem_descendants_iff, and_comm]
  | child =>
      simp [Combinator.targets, Combinator.Stands, Tree.elementChildren,
        linked.mem_children_iff, and_comm]
  | adjacent =>
      cases owned : tree.parent? context with
      | none =>
          simp [Combinator.targets, Combinator.Stands, StandsBefore, owned]
      | some parent =>
          simp [Combinator.targets, Combinator.Stands, owned,
            nextElementSibling?_eq_some_iff linked owned]
  | sibling =>
      cases owned : tree.parent? context with
      | none =>
          simp [Combinator.targets, Combinator.Stands, StandsBefore, owned]
      | some parent =>
          simp [Combinator.targets, Combinator.Stands, owned,
            mem_followingSiblings_iff linked owned, and_comm]

end Targets

/-- Only elements pass a segment. -/
theorem isElement_of_accepts
    {tree : Tree}
    {segment : Segment}
    {node : NodeId}
    (accepted : segment.accepts tree node = true) :
    tree.isElement node = true := by
  simp only [Segment.accepts, Bool.and_eq_true] at accepted
  cases element : tree.element? node with
  | none =>
      simp [element] at accepted
  | some _ =>
      simp [Tree.isElement, element]

/-- Following a branch forwards reaches the nodes that routes lead to. -/
theorem mem_reached_iff
    {tree : Tree}
    (linked : tree.Linked)
    {branch : Branch}
    {context node : NodeId} :
    node ∈ branch.reached tree context ↔ LeadsTo tree branch context node := by
  induction branch generalizing context with
  | nil =>
      constructor
      · intro member
        have here : node = context := by
          simpa [Branch.reached] using member
        exact ⟨[], .done context, by simp [here]⟩
      · rintro ⟨nodes, route, last⟩
        cases route
        have here : context = node := by
          simpa using last
        simp [Branch.reached, here]
  | cons segment rest inductionHypothesis =>
      simp only [Branch.reached, List.mem_flatMap, mem_targets_iff linked]
      constructor
      · rintro ⟨next, ⟨_, stands⟩, member⟩
        split at member
        · next accepted =>
            obtain ⟨nodes, route, last⟩ := inductionHypothesis.mp member
            exact ⟨next :: nodes, .step accepted stands route, by
              rw [List.getLast?_cons_cons, last]⟩
        · simp at member
      · rintro ⟨nodes, route, last⟩
        cases route with
        | @step _ next _ _ nodes accepted stands route =>
            refine ⟨next, ⟨isElement_of_accepts accepted, stands⟩, ?_⟩
            rw [if_pos accepted]
            exact inductionHypothesis.mpr ⟨nodes, route, by
              rw [← last, List.getLast?_cons_cons]⟩

/--
In every tree that edits build and from every node, a selector with a plan finds exactly the nodes
that a route through one of its branches leads to, each of them once.
-/
theorem select_eq_leadsTo
    (edits : List Tree.Edit)
    (root : NodeId)
    (selector : String)
    (plan : Plan)
    (parsed : Plan.parse selector = .ok plan) :
    ∃ found,
      select (built edits) root selector = .ok found ∧
        found.Nodup ∧
        ∀ node, node ∈ found ↔
          ∃ branch ∈ plan, LeadsTo (built edits) branch root node := by
  have linked := Tree.linked_built edits
  refine ⟨plan.select (built edits) root, ?_, plan.nodup_select, ?_⟩
  · rw [select, parsed]
    rfl
  · intro node
    simp only [Plan.mem_select_iff, mem_reached_iff linked]

/-- Items of a list, with text between them, are found over one another and by two branches. -/
theorem select_eq_leadsTo_list :
    let edits : List Tree.Edit := [
      .build 0 [
        .element "ul" none [] [
          .element "li" none [("class", "x")] [],
          .text "gap",
          .element "li" none [("id", "b")] [],
          .element "li" none [] []
        ]
      ]
    ]
    let plan : Plan := [
      [
        { tag := some (.named "ul") },
        { combinator := .child, tag := some (.named "li"), classes := ["x"] },
        { combinator := .adjacent, tag := some (.named "li") }
      ],
      [
        { tag := some (.named "li") },
        { combinator := .sibling, id := some "b" }
      ]
    ]
    Plan.parse "ul > li.x + li, li ~ #b" = .ok plan ∧
      ∃ found,
        select (built edits) 0 "ul > li.x + li, li ~ #b" = .ok found ∧
          found.Nodup ∧
          ∀ node, node ∈ found ↔
            ∃ branch ∈ plan, LeadsTo (built edits) branch 0 node := by
  intro edits plan
  have parsed : Plan.parse "ul > li.x + li, li ~ #b" = .ok plan := by
    have read : (Plan.parse "ul > li.x + li, li ~ #b").toOption = some plan := by
      decide +kernel
    cases outcome : Plan.parse "ul > li.x + li, li ~ #b" with
    | error error =>
        simp [outcome, Except.toOption] at read
    | ok parsed =>
        simpa [outcome, Except.toOption] using read
  exact ⟨parsed, select_eq_leadsTo edits 0 _ plan parsed⟩

end MarkupQuery.Selector

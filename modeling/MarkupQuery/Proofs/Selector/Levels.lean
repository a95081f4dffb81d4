import MarkupQuery.Proofs.Selector.Found

namespace MarkupQuery.Selector

/-!
# Searching level by level

A search goes down one way through a branch after the other, meets the same node on many of them,
and drops repetitions at the very end. Level by level, each segment is applied once to every node
that the segments before it lead to, and repetitions are dropped at once. Both find the same nodes
in the same order.
-/

/-- The targets that a segment accepts, seen from each node of a level in turn, each once. -/
def Segment.advance
    (segment : Segment)
    (tree : Tree)
    (level : List NodeId) :
    List NodeId :=
  (level.flatMap fun context =>
    (segment.combinator.targets tree context).filter (segment.accepts tree)).eraseDups

namespace Branch

variable {tree : Tree}

/-- The level to which the segments of a branch lead from another level, one after the other. -/
def advance (tree : Tree) : Branch → List NodeId → List NodeId
  | [], level => level
  | segment :: rest, level => advance tree rest (segment.advance tree level)

/-- Follow every way through a branch, depth first, and take note of the node at its end. -/
def walkInto (tree : Tree) : Branch → NodeId → Found → Found
  | [], context, found => found.insert context
  | segment :: rest, context, found =>
      (segment.combinator.targets tree context).foldl
        (fun found node =>
          if segment.accepts tree node then walkInto tree rest node found else found)
        found

theorem walkInto_eq_insertAll
    (branch : Branch)
    (context : NodeId)
    (found : Found) :
    branch.walkInto tree context found = found.insertAll (branch.reached tree context) := by
  induction branch generalizing context found with
  | nil =>
      rfl
  | cons segment rest inductionHypothesis =>
      rw [walkInto, reached, Found.insertAll, List.foldl_flatMap]
      congr 1
      funext found node
      split
      · exact inductionHypothesis node found
      · rfl

theorem reached_cons
    (segment : Segment)
    (rest : Branch)
    (context : NodeId) :
    reached tree (segment :: rest) context =
      ((segment.combinator.targets tree context).filter (segment.accepts tree)).flatMap
        (reached tree rest) := by
  rw [reached]
  induction segment.combinator.targets tree context with
  | nil =>
      rfl
  | cons node nodes inductionHypothesis =>
      cases accepted : segment.accepts tree node <;> simp [accepted, inductionHypothesis]

/-- A single segment reaches what passes it where it leads to. -/
theorem reached_singleton
    (segment : Segment)
    (context : NodeId) :
    reached tree [segment] context =
      (segment.combinator.targets tree context).filter (segment.accepts tree) := by
  rw [reached_cons]
  exact List.flatMap_singleton' _

/-- What a branch of two parts reaches, the second part reaches from what the first does. -/
theorem reached_append
    (first second : Branch)
    (context : NodeId) :
    reached tree (first ++ second) context =
      (reached tree first context).flatMap (reached tree second) := by
  induction first generalizing context with
  | nil =>
      simp [reached]
  | cons segment rest inductionHypothesis =>
      rw [List.cons_append, reached_cons, reached_cons, List.flatMap_assoc]
      congr 1
      funext node
      exact inductionHypothesis node

/--
Segments lead from a level without repetitions to the first occurrences among all nodes that they
reach from it.
-/
theorem advance_eraseDups
    (branch : Branch)
    (contexts : List NodeId) :
    branch.advance tree contexts.eraseDups =
      (contexts.flatMap (branch.reached tree)).eraseDups := by
  induction branch generalizing contexts with
  | nil =>
      rw [advance]
      congr 1
      exact (List.flatMap_singleton' contexts).symm
  | cons segment rest inductionHypothesis =>
      -- The next level is made without repetitions too, so the hypothesis applies to it.
      rw [advance, Segment.advance, eraseDups_flatMap_eraseDups, inductionHypothesis,
        List.flatMap_assoc]
      congr 2
      funext context
      exact (reached_cons segment rest context).symm

/--
Following all ways depth first and dropping repetitions at the end gives the last level, in its
order. So a branch of two parts finds what the second part finds from the nodes that the first part
finds, in their order and without repetitions.
-/
theorem walk_eq_advance
    (tree : Tree)
    (root : NodeId) :
    (∀ branch : Branch,
        (branch.walkInto tree root .empty).nodes = branch.advance tree [root] ∧
          branch.walk tree root = branch.advance tree [root]) ∧
      ∀ first second : Branch,
        Branch.walk (first ++ second) tree root =
          ((first.walk tree root).flatMap fun node => second.walk tree node).eraseDups := by
  have start : [root].eraseDups = [root] := by
    simp [List.eraseDups_cons]
  constructor
  · intro branch
    have walked : branch.walk tree root = branch.advance tree [root] := by
      rw [walk_eq_eraseDups, ← start, advance_eraseDups, List.flatMap_singleton]
    refine ⟨?_, walked⟩
    rw [walkInto_eq_insertAll]
    exact walked
  · intro first second
    have once :
        ∀ node, (second.walk tree node).eraseDups = (reached tree second node).eraseDups := by
      intro node
      rw [walk_eq_eraseDups, eraseDups_eraseDups]
    rw [walk_eq_eraseDups, reached_append, walk_eq_eraseDups, eraseDups_flatMap_congr once,
      eraseDups_flatMap_eraseDups]

end Branch

end MarkupQuery.Selector

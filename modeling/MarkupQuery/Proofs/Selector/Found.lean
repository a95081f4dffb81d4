import MarkupQuery.Proofs.FirstOccurrences
import MarkupQuery.Selector.Search

namespace MarkupQuery.Selector

/-!
# Collecting nodes without repetition

A collection keeps the first occurrence of every node, in the order of these occurrences. So what a
plan finds are the first occurrences in the list of all nodes that its branches reach, one branch
after the other.
-/

namespace Found

theorem nodes_insert
    (found : Found)
    (node : NodeId) :
    (found.insert node).nodes =
      found.nodes ++ if node ∈ found.nodes then [] else [node] := by
  by_cases before : node ∈ found.nodes <;> simp [insert, contains, before]

/-- Collecting keeps the first occurrence of every node. -/
theorem nodes_insertAll_empty (nodes : List NodeId) :
    (Found.empty.insertAll nodes).nodes = nodes.eraseDups := by
  induction nodes using List.reverseRecOn with
  | nil =>
      rfl
  | append_singleton nodes node inductionHypothesis =>
      have last :
          Found.empty.insertAll (nodes ++ [node]) = (Found.empty.insertAll nodes).insert node := by
        simp [insertAll]
      rw [last, nodes_insert, inductionHypothesis, eraseDups_concat]
      simp only [List.mem_eraseDups]

end Found

namespace Branch

/-- A branch finds the first occurrences among the nodes that it reaches. -/
theorem walk_eq_eraseDups
    (branch : Branch)
    (tree : Tree)
    (context : NodeId) :
    branch.walk tree context = (branch.reached tree context).eraseDups :=
  Found.nodes_insertAll_empty _

end Branch

namespace Plan

variable {tree : Tree} {context : NodeId}

/-- A plan finds the first occurrences among the nodes that its branches reach in turn. -/
theorem select_eq_eraseDups (plan : Plan) :
    plan.select tree context =
      (plan.flatMap fun branch => Branch.reached tree branch context).eraseDups := by
  rw [select, ← Found.nodes_insertAll_empty, Found.insertAll, List.foldl_flatMap]
  rfl

/-- A plan whose branches reach the same in two trees finds the same in both. -/
theorem select_congr
    {other : Tree}
    {plan : Plan}
    (same : ∀ branch ∈ plan, Branch.reached other branch context = branch.reached tree context) :
    plan.select other context = plan.select tree context := by
  rw [select_eq_eraseDups, select_eq_eraseDups, List.flatMap_congr same]

/-- A plan finds the nodes that its branches reach. -/
theorem mem_select_iff
    {plan : Plan}
    {node : NodeId} :
    node ∈ plan.select tree context ↔
      ∃ branch ∈ plan, node ∈ Branch.reached tree branch context := by
  rw [select_eq_eraseDups, List.mem_eraseDups, List.mem_flatMap]

/-- A plan finds no node twice. -/
theorem nodup_select (plan : Plan) :
    (plan.select tree context).Nodup := by
  rw [select_eq_eraseDups]
  exact nodup_eraseDups _

end Plan

end MarkupQuery.Selector

import MarkupQuery.Proofs.Selector.Found
import MarkupQuery.Selector.Engine
import MarkupQuery.Tree.Edit

namespace MarkupQuery.Selector

/-!
# The first node found

Looking for the first node is a search of its own that ends where it succeeds. It tries the ways
through a branch in the order in which collecting all nodes goes through them, so that it ends at
the node that would be collected first.
-/

/-- What occurs first is a first occurrence. -/
theorem head?_eraseDups
    {α : Type}
    [BEq α]
    [LawfulBEq α]
    (items : List α) :
    items.eraseDups.head? = items.head? := by
  cases items with
  | nil =>
      rfl
  | cons item items =>
      rw [List.eraseDups_cons, List.head?_cons, List.head?_cons]

/-- The search for the first node ends at the end of the first way through a branch. -/
theorem Branch.first?_eq_head?
    (tree : Tree)
    (branch : Branch)
    (context : NodeId) :
    branch.first? tree context = (branch.reached tree context).head? := by
  induction branch generalizing context with
  | nil =>
      rfl
  | cons segment rest inductionHypothesis =>
      rw [first?, reached, List.head?_flatMap]
      congr 1
      funext node
      split
      · exact inductionHypothesis node
      · rfl

/-- A branch that reaches nothing is passed over, whatever was tried in it. -/
theorem Plan.selectFirst_eq_head?
    (plan : Plan)
    (tree : Tree)
    (context : NodeId) :
    plan.selectFirst tree context = (plan.select tree context).head? := by
  rw [select_eq_eraseDups, head?_eraseDups, List.head?_flatMap, selectFirst]
  congr 1
  funext branch
  exact branch.first?_eq_head? tree context

namespace Engine

/-- What is done with a plan has no part in reading it, nor in what is kept of it. -/
theorem follow_eq_map
    {α β : Type}
    (engine : Engine)
    (selector : String)
    {answer : Plan → α}
    {other : Plan → β}
    {warnings otherWarnings : Plan → List Warning}
    (change : α → β)
    (agree : ∀ plan, other plan = change (answer plan)) :
    (engine.follow selector other otherWarnings).result =
        (engine.follow selector answer warnings).result.map change ∧
      (engine.follow selector other otherWarnings).engine =
        (engine.follow selector answer warnings).engine := by
  cases planned : (engine.plan selector).result with
  | error failure =>
      simp [follow, planned, Except.map]
  | ok plan =>
      simp [follow, planned, Except.map, agree]

/--
Whatever an engine keeps: asked for the first node it answers with the first of all nodes that it
would find, or with nothing if there are none, and it refuses a selector just when it would refuse
to find all nodes, for the same reason. Either way it is the same engine afterwards.
-/
theorem selectFirst_eq_head?_select
    (engine : Engine)
    (tree : Tree)
    (context : NodeId)
    (selector : String) :
    (engine.selectFirst tree context selector).result =
        (engine.select tree context selector).result.map List.head? ∧
      (engine.selectFirst tree context selector).engine =
        (engine.select tree context selector).engine :=
  engine.follow_eq_map selector List.head? fun plan => plan.selectFirst_eq_head? tree context

/-- A branch that is refused refuses the selector, although a branch before it finds something. -/
example :
    ((unbounded.selectFirst (Tree.empty.addElement 0 "li" none []) 0 "li, >").result =
      .error (.inSelector "li, >" (.noSimpleSelector ">"))) := by
  decide +kernel

end Engine

end MarkupQuery.Selector

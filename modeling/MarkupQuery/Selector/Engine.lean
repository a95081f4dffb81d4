import MarkupQuery.Selector.Cache
import MarkupQuery.Selector.Search

namespace MarkupQuery.Selector

/-!
# Answering selectors through a cache

An engine answers selectors and remembers the branches it has read. Remembering changes no answer:
a branch from the cache is what reading it again would give, and its warnings were raised when it
was read.
-/

/-- What answers selectors: the branches read so far. -/
structure Engine where
  cache : BranchCache := .unbounded

namespace Engine

/-- What an engine answers, what it warns about, and the engine afterwards. -/
structure Reply (α : Type) where
  result : Except SelectorError α
  warnings : List Warning
  engine : Engine

/-- An engine that remembers every branch. -/
def unbounded : Engine := {}

/-- An engine that remembers `capacity` branches, and one at least. -/
def bounded (capacity : Nat) : Engine :=
  { cache := .bounded capacity }

/-- The plan of a selector; branches are looked up from left to right. -/
def plan (engine : Engine) (selector : String) : Reply Plan :=
  match branchTexts selector with
  | [] => { result := .error (.empty selector), warnings := [], engine := engine }
  | branches =>
      let answer := engine.cache.lookupAll branches
      {
        result := answer.result.mapError (.inSelector selector)
        warnings := answer.warnings
        engine := { cache := answer.cache }
      }

/-- Plan a selector and, if that succeeds, follow the plan. -/
def follow
    {α : Type}
    (engine : Engine)
    (selector : String)
    (answer : Plan → α)
    (warnings : Plan → List Warning) :
    Reply α :=
  let planned := engine.plan selector
  match planned.result with
  | .error error =>
      { result := .error error, warnings := planned.warnings, engine := planned.engine }
  | .ok plan =>
      {
        result := .ok (answer plan)
        warnings := planned.warnings ++ warnings plan
        engine := planned.engine
      }

/-- All nodes that a selector finds from a node, each once. -/
def select
    (engine : Engine)
    (tree : Tree)
    (context : NodeId)
    (selector : String) :
    Reply (List NodeId) :=
  engine.follow selector
    (fun plan => plan.select tree context)
    (fun plan => plan.selectWarnings tree context)

/-- The first node that a selector finds from a node. -/
def selectFirst
    (engine : Engine)
    (tree : Tree)
    (context : NodeId)
    (selector : String) :
    Reply (Option NodeId) :=
  engine.follow selector
    (fun plan => plan.selectFirst tree context)
    (fun plan => plan.selectFirstWarnings tree context)

/-- Forget all branches. -/
def clear (engine : Engine) : Engine :=
  { cache := engine.cache.clear }

end Engine

/-- All nodes that a selector finds from a node, or why it is refused. -/
def select
    (tree : Tree)
    (context : NodeId)
    (selector : String) :
    Except SelectorError (List NodeId) :=
  (Plan.parse selector).map fun plan => plan.select tree context

/-- The first node that a selector finds from a node, or why it is refused. -/
def selectFirst
    (tree : Tree)
    (context : NodeId)
    (selector : String) :
    Except SelectorError (Option NodeId) :=
  (Plan.parse selector).map fun plan => plan.selectFirst tree context

end MarkupQuery.Selector

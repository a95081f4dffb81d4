import MarkupQuery.Proofs.Selector.Recency
import MarkupQuery.Proofs.Warning
import MarkupQuery.Selector.Engine

namespace MarkupQuery.Selector

/-!
# Sessions with an engine

An engine is called over and over. It keeps branches from one call to the next, and all calls raise
their warnings in one log. The same calls can be answered without keeping anything, every branch
being read anew each time. Neither what is returned nor what is logged tells the two apart: a branch
that is kept is what reading it would give, and the warnings that reading it would raise were raised
when it was read.
-/

inductive Call where
  | select (tree : Tree) (context : NodeId) (selector : String)
  | selectFirst (tree : Tree) (context : NodeId) (selector : String)
  | plan (selector : String)
  | clear

inductive Returned where
  | nodes (result : Except SelectorError (List NodeId))
  | firstNode (result : Except SelectorError (Option NodeId))
  | plan (result : Except SelectorError Plan)
  | nothing

section WithEngine

/-- What a call returns and warns about, and the engine after it. -/
structure Handled where
  returned : Returned
  warnings : List Warning
  engine : Engine

/-- A reply as one of the things that a call may return. -/
def Engine.Reply.handled
    {α : Type}
    (reply : Engine.Reply α)
    (returned : Except SelectorError α → Returned) :
    Handled where
  returned := returned reply.result
  warnings := reply.warnings
  engine := reply.engine

def Engine.handle (engine : Engine) : Call → Handled
  | .select tree context selector => (engine.select tree context selector).handled .nodes
  | .selectFirst tree context selector =>
      (engine.selectFirst tree context selector).handled .firstNode
  | .plan selector => (engine.plan selector).handled .plan
  | .clear => { returned := .nothing, warnings := [], engine := engine.clear }

/-- What calls return in turn, each with the log as it is after the call. -/
def Engine.session
    (engine : Engine)
    (log : WarningLog) :
    List Call → List (Returned × WarningLog)
  | [] => []
  | call :: calls =>
      let handled := engine.handle call
      let logged := log.reportAll handled.warnings
      (handled.returned, logged) :: handled.engine.session logged calls

def Engine.ofCapacity : Option Nat → Engine
  | none => .unbounded
  | some capacity => .bounded capacity

end WithEngine

section WithoutEngine

/-- What reading branches in turn warns about. A branch that is refused is the last one read. -/
def readWarnings : List String → List Warning
  | [] => []
  | branch :: branches =>
      Branch.parseWarnings branch ++
        match Branch.parse branch with
        | .ok _ => readWarnings branches
        | .error _ => []

/-- What reading a selector and following its plan, if it has one, warns about. -/
def followWarnings
    (selector : String)
    (warnings : Plan → List Warning) :
    List Warning :=
  readWarnings (branchTexts selector) ++
    match Plan.parse selector with
    | .ok plan => warnings plan
    | .error _ => []

namespace Call

/-- What a call returns when every branch is read anew. -/
def returned : Call → Returned
  | .select tree context selector => .nodes (Selector.select tree context selector)
  | .selectFirst tree context selector =>
      .firstNode (Selector.selectFirst tree context selector)
  | .plan selector => .plan (Plan.parse selector)
  | .clear => .nothing

/-- What a call warns about when every branch is read anew. -/
def warnings : Call → List Warning
  | .select tree context selector =>
      followWarnings selector fun plan => plan.selectWarnings tree context
  | .selectFirst tree context selector =>
      followWarnings selector fun plan => plan.selectFirstWarnings tree context
  | .plan selector => readWarnings (branchTexts selector)
  | .clear => []

end Call

/-- What calls return in turn when nothing is kept, each with the log as it is after the call. -/
def freshSession (log : WarningLog) : List Call → List (Returned × WarningLog)
  | [] => []
  | call :: calls =>
      let logged := log.reportAll call.warnings
      (call.returned, logged) :: freshSession logged calls

end WithoutEngine

/-- What a cache keeps is what its text reads as, and reading it would warn of nothing new. -/
structure BranchCache.Faithful
    (cache : BranchCache)
    (log : WarningLog) : Prop where
  read :
    ∀ entry ∈ cache.entries, Branch.parse entry.1 = .ok entry.2
  warned :
    ∀ entry ∈ cache.entries, ∀ warning ∈ Branch.parseWarnings entry.1,
      log.contains warning = true

/-- Nobody who sees the result and the log can tell an answer from a reading without a cache. -/
structure Answer.Mirrors
    {α : Type}
    (answer : Answer α)
    (log : WarningLog)
    (result : Except SelectorError α)
    (warnings : List Warning) : Prop where
  result : answer.result = result
  logged : log.reportAll answer.warnings = log.reportAll warnings
  faithful : answer.cache.Faithful (log.reportAll warnings)

namespace BranchCache

variable {cache : BranchCache} {log : WarningLog} {branch : String} {segments : Branch}

theorem faithful_of_no_entries
    (nothing : cache.entries = []) :
    cache.Faithful log := by
  constructor <;> simp [nothing]

namespace Faithful

/-- A cache stays faithful when more is warned of. -/
theorem after
    (faithful : cache.Faithful log)
    (warnings : List Warning) :
    cache.Faithful (log.reportAll warnings) where
  read := faithful.read
  warned := fun entry member warning raised =>
    WarningLog.contains_reportAll_iff.mpr (Or.inl (faithful.warned entry member warning raised))

/-- A cache stays faithful when a branch is stored that was read and warned of. -/
theorem store
    (faithful : cache.Faithful log)
    (read : Branch.parse branch = .ok segments)
    (warned : ∀ warning ∈ Branch.parseWarnings branch, log.contains warning = true) :
    (cache.store branch segments).Faithful log where
  read := by
    intro entry member
    rcases mem_entries_store member with rfl | kept
    · exact read
    · exact faithful.read entry kept
  warned := by
    intro entry member
    rcases mem_entries_store member with rfl | kept
    · exact warned
    · exact faithful.warned entry kept

/-- A look-up answers as reading the branch anew does, and warns of the same. -/
theorem lookup
    (faithful : cache.Faithful log)
    (branch : String) :
    (cache.lookup branch).Mirrors log (Branch.parse branch) (Branch.parseWarnings branch) := by
  unfold BranchCache.lookup
  split
  · next segments kept =>
      -- A hit raises nothing, and a reading would raise nothing that is new to the log.
      have member := mem_entries_of_peek? kept
      have read := faithful.read _ member
      have warned := faithful.warned _ member
      have unchanged := WarningLog.reportAll_of_contains warned
      have stored := faithful.store read warned
      rw [read]
      refine ⟨rfl, unchanged.symm, ?_⟩
      rw [unchanged]
      exact ⟨stored.read, stored.warned⟩
  · -- A miss is a reading, and what is stored was raised in the log just now.
    have raised :
        ∀ warning ∈ Branch.parseWarnings branch,
          (log.reportAll (Branch.parseWarnings branch)).contains warning = true :=
      fun warning member =>
        WarningLog.contains_reportAll_iff.mpr (Or.inr ⟨warning, member, rfl⟩)
    have later := faithful.after (Branch.parseWarnings branch)
    refine ⟨rfl, rfl, ?_⟩
    cases read : Branch.parse branch with
    | error error =>
        exact ⟨later.read, later.warned⟩
    | ok segments =>
        exact Faithful.store ⟨later.read, later.warned⟩ read raised

/-- Look-ups in turn answer as reading the branches in turn would. -/
theorem lookupAll
    (faithful : cache.Faithful log)
    (branches : List String) :
    (cache.lookupAll branches).Mirrors log (branches.mapM Branch.parse)
      (readWarnings branches) := by
  induction branches generalizing cache log with
  | nil =>
      exact ⟨rfl, rfl, faithful⟩
  | cons branch branches inductionHypothesis =>
      have first := faithful.lookup branch
      have others := inductionHypothesis first.faithful
      rw [List.mapM_cons, readWarnings, BranchCache.lookupAll, first.result]
      cases read : Branch.parse branch with
      | error error =>
          simp only [List.append_nil]
          exact ⟨rfl, first.logged, first.faithful⟩
      | ok segments =>
          refine ⟨?_, ?_, ?_⟩
          · simp only [others.result]
            cases branches.mapM Branch.parse <;> rfl
          · simp only [WarningLog.reportAll_append, first.logged, others.logged]
          · rw [WarningLog.reportAll_append]
            exact others.faithful

end Faithful

end BranchCache

namespace Engine

variable {engine : Engine} {log : WarningLog}

/-- A reply with the cache of the engine that it leaves behind. -/
def Reply.answer
    {α : Type}
    (reply : Reply α) :
    Answer α where
  result := reply.result
  warnings := reply.warnings
  cache := reply.engine.cache

/-- Planning answers as reading the selector anew does, and warns of the same. -/
theorem plan_mirrors
    (faithful : engine.cache.Faithful log)
    (selector : String) :
    (engine.plan selector).answer.Mirrors log (Plan.parse selector)
      (readWarnings (branchTexts selector)) := by
  have looked := faithful.lookupAll (branchTexts selector)
  cases texts : branchTexts selector with
  | nil =>
      simp only [plan, Plan.parse, texts]
      exact ⟨rfl, rfl, faithful⟩
  | cons branch branches =>
      rw [texts] at looked
      simp only [plan, Plan.parse, texts]
      exact ⟨congrArg (Except.mapError _) looked.result, looked.logged, looked.faithful⟩

theorem follow_mirrors
    {α : Type}
    (faithful : engine.cache.Faithful log)
    (selector : String)
    (answer : Plan → α)
    (warnings : Plan → List Warning) :
    (engine.follow selector answer warnings).answer.Mirrors log
      ((Plan.parse selector).map answer)
      (followWarnings selector warnings) := by
  have planned := plan_mirrors faithful selector
  have result : (engine.plan selector).result = Plan.parse selector :=
    planned.result
  simp only [follow, followWarnings, result]
  cases Plan.parse selector with
  | error error =>
      rw [List.append_nil]
      exact ⟨rfl, planned.logged, planned.faithful⟩
  | ok plan =>
      refine ⟨rfl, ?_, ?_⟩
      · have logged := planned.logged
        simp only [Reply.answer] at logged ⊢
        rw [WarningLog.reportAll_append, logged, WarningLog.reportAll_append]
      · rw [WarningLog.reportAll_append]
        exact planned.faithful.after (warnings plan)

/-- One call on an engine with a faithful cache is answered as without it. -/
theorem handle_mirrors
    (faithful : engine.cache.Faithful log)
    (call : Call) :
    (engine.handle call).returned = call.returned ∧
      log.reportAll (engine.handle call).warnings = log.reportAll call.warnings ∧
      (engine.handle call).engine.cache.Faithful (log.reportAll call.warnings) := by
  cases call with
  | select tree context selector =>
      have mirrors := follow_mirrors faithful selector
        (fun plan => plan.select tree context) (fun plan => plan.selectWarnings tree context)
      exact ⟨congrArg Returned.nodes mirrors.result, mirrors.logged, mirrors.faithful⟩
  | selectFirst tree context selector =>
      have mirrors := follow_mirrors faithful selector
        (fun plan => plan.selectFirst tree context)
        (fun plan => plan.selectFirstWarnings tree context)
      exact ⟨congrArg Returned.firstNode mirrors.result, mirrors.logged, mirrors.faithful⟩
  | plan selector =>
      have mirrors := plan_mirrors faithful selector
      exact ⟨congrArg Returned.plan mirrors.result, mirrors.logged, mirrors.faithful⟩
  | clear =>
      exact ⟨rfl, rfl, BranchCache.faithful_of_no_entries rfl⟩

/-- From a faithful cache on all calls answer as if nothing were kept. -/
theorem session_of_faithful
    (faithful : engine.cache.Faithful log)
    (calls : List Call) :
    engine.session log calls = freshSession log calls := by
  induction calls generalizing engine log with
  | nil =>
      rfl
  | cons call calls inductionHypothesis =>
      obtain ⟨returned, logged, handled⟩ := handle_mirrors faithful call
      rw [session, freshSession, returned, logged, inductionHypothesis handled]

/--
Whatever the capacity of an engine, whatever was logged before and whatever it is asked: it returns
and logs, call by call, what reading every branch anew would return and log.
-/
theorem session_eq_freshSession
    (capacity : Option Nat)
    (log : WarningLog)
    (calls : List Call) :
    (ofCapacity capacity).session log calls = freshSession log calls := by
  have new : (ofCapacity capacity).cache.entries = [] := by
    cases capacity <;> rfl
  exact session_of_faithful (BranchCache.faithful_of_no_entries new) calls

end Engine

end MarkupQuery.Selector

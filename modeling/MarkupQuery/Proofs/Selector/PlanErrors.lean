import MarkupQuery.Proofs.Selector.Lists
import MarkupQuery.Proofs.Selector.Refusals
import MarkupQuery.Proofs.Selector.Sessions

namespace MarkupQuery.Selector

/-!
# What planning a selector answers

A selector is planned branch by branch through a cache, and the first branch that is refused ends
this. So a selector has no branch, or all of its branches are read, or one of them is to blame. The
cache learns of the branches up to the one to blame and of none behind it.
-/

open MarkupQuery.Text

/-- Of some texts, the first that is refused as a branch, and those that are read before it. -/
structure FirstRefused
    (texts earlier : List String)
    (refused : String)
    (cause : SelectorError) : Prop where
  place : ∃ later, texts = earlier ++ refused :: later
  readable : ∀ text ∈ earlier, Branch.isReadable text = true
  cause : Branch.parse refused = .error cause

/-- An error that is about one branch of a selector, as it stands there between commas. -/
structure BlamesBranch
    (selector branch : String)
    (cause : SelectorError) : Prop where
  kind :
    cause = .noSimpleSelector branch ∨
      ∃ offset remainder, cause = .unparsed branch offset remainder
  root : cause.rootCause = cause
  single : ',' ∉ branch.toList
  trimmed : trim branch.toList = branch.toList
  nonempty : branch ≠ ""
  inside : branch.toList <:+: selector.toList

section Texts

variable {texts earlier : List String} {refused : String} {cause : SelectorError}

/-- Texts have a plan if each of them can be read. -/
theorem exists_plan_iff :
    (∃ plan, texts.mapM Branch.parse = .ok plan) ↔
      ∀ text ∈ texts, Branch.isReadable text = true := by
  simp only [mapM_parse_eq_ok_iff]
  induction texts with
  | nil =>
      simp
  | cons text texts inductionHypothesis =>
      rw [List.forall_mem_cons, ← inductionHypothesis, Branch.isReadable_iff]
      simp only [List.forall₂_cons_left_iff]
      constructor
      · rintro ⟨_, branch, branches, read, others, rfl⟩
        exact ⟨⟨branch, read⟩, branches, others⟩
      · rintro ⟨⟨branch, read⟩, branches, others⟩
        exact ⟨_, branch, branches, read, others, rfl⟩

/-- If some text is refused, there is a first one that is. -/
theorem exists_firstRefused
    {text : String}
    (member : text ∈ texts)
    (unreadable : Branch.isReadable text = false) :
    ∃ earlier refused cause, FirstRefused texts earlier refused cause := by
  cases first : texts.find? fun text => !Branch.isReadable text with
  | none =>
      have readable := List.find?_eq_none.mp first text member
      simp [unreadable] at readable
  | some refused =>
      obtain ⟨isRefused, earlier, later, place, readable⟩ :=
        List.find?_eq_some_iff_append.mp first
      obtain ⟨cause, parsed⟩ := Branch.isReadable_eq_false_iff.mp (by simpa using isRefused)
      exact ⟨earlier, refused, cause, ⟨later, place⟩, by simpa using readable, parsed⟩

namespace FirstRefused

/-- The first text that is refused is among the texts. -/
theorem mem (first : FirstRefused texts earlier refused cause) :
    refused ∈ texts := by
  obtain ⟨later, rfl⟩ := first.place
  simp

/-- Reading texts in turn fails for the first that is refused. -/
theorem mapM_parse (first : FirstRefused texts earlier refused cause) :
    texts.mapM Branch.parse = .error cause := by
  obtain ⟨later, rfl⟩ := first.place
  obtain ⟨plan, read⟩ := exists_plan_iff.mpr first.readable
  rw [List.mapM_append, read, List.mapM_cons, first.cause]
  rfl

end FirstRefused

end Texts

/-- A branch of a selector is not blank, so it is not refused as empty. -/
theorem blamesBranch_of_mem_branchTexts
    {selector refused : String}
    {cause : SelectorError}
    (member : refused ∈ branchTexts selector)
    (parsed : Branch.parse refused = .error cause) :
    BlamesBranch selector refused cause := by
  have trimmed := trimmed_of_mem_branchTexts member
  have nonempty := (mem_branchTexts_iff.mp member).1
  have kind :
      cause = .noSimpleSelector refused ∨
        ∃ offset remainder, cause = .unparsed refused offset remainder := by
    rcases parse_cases refused with empty | nothing | ⟨offset, remainder, unparsed⟩ | ⟨_, read⟩
    · have blank := isBlankText_iff_trim.mp (parse_eq_empty_iff.mp empty).2
      exact absurd (String.toList_eq_nil_iff.mp (trimmed.symm.trans blank)) nonempty
    · exact Or.inl (Except.error.inj (parsed.symm.trans nothing))
    · exact Or.inr ⟨offset, remainder, Except.error.inj (parsed.symm.trans unparsed)⟩
    · cases parsed.symm.trans read
  exact {
    kind
    root := by
      rcases kind with rfl | ⟨offset, remainder, rfl⟩ <;> rfl
    single := comma_not_mem_of_mem_branchTexts member
    trimmed
    nonempty
    inside := infix_of_mem_branchTexts member
  }

namespace Plan

variable {selector : String}

/-- A selector is refused as empty if it has no branch, and for no other reason. -/
theorem parse_eq_empty_iff :
    parse selector = .error (.empty selector) ↔ branchTexts selector = [] := by
  refine ⟨fun refused => ?_, parse_of_no_branch⟩
  by_contra branches
  obtain ⟨cause, _, wrapped⟩ := (parse_eq_error_iff branches).mp refused
  cases wrapped

/-- A selector has a plan if it has a branch and each of its branches can be read. -/
theorem exists_parse_iff :
    (∃ plan, parse selector = .ok plan) ↔
      branchTexts selector ≠ [] ∧
        ∀ text ∈ branchTexts selector, Branch.isReadable text = true := by
  simp only [parse_eq_ok_iff, exists_and_left, exists_plan_iff]

/-- A selector is refused for the first of its branches that is. -/
theorem parse_of_firstRefused
    {earlier : List String}
    {refused : String}
    {cause : SelectorError}
    (first : FirstRefused (branchTexts selector) earlier refused cause) :
    parse selector = .error (.inSelector selector cause) :=
  (parse_eq_error_iff (List.ne_nil_of_mem first.mem)).mpr ⟨cause, first.mapM_parse, rfl⟩

end Plan

namespace BranchCache

variable {cache : BranchCache} {log : WarningLog} {texts earlier : List String}

/-- What look-ups left behind agrees with a log in which all that was kept has been raised. -/
theorem Recalls.exists_faithful (recalls : cache.Recalls texts) :
    ∃ log, cache.Faithful log := by
  let raised := cache.entries.flatMap fun entry => Branch.parseWarnings entry.1
  refine ⟨({} : WarningLog).reportAll raised, recalls.read, ?_⟩
  intro entry member warning inEntry
  exact WarningLog.contains_reportAll_iff.mpr
    (Or.inr ⟨warning, List.mem_flatMap.mpr ⟨entry, member, inEntry⟩, rfl⟩)

/-- Looking up texts goes on behind those that can be read. -/
theorem Faithful.cache_lookupAll_append
    (faithful : cache.Faithful log)
    (readable : ∀ text ∈ earlier, Branch.isReadable text = true)
    (later : List String) :
    (cache.lookupAll (earlier ++ later)).cache =
      ((cache.afterAll (earlier.map .lookup)).lookupAll later).cache := by
  induction earlier generalizing cache log with
  | nil =>
      rfl
  | cons text earlier inductionHypothesis =>
      obtain ⟨here, others⟩ := List.forall_mem_cons.mp readable
      obtain ⟨segments, read⟩ := Branch.isReadable_iff.mp here
      have first := faithful.lookup text
      have answered : (cache.lookup text).result = .ok segments :=
        first.result.trans read
      rw [List.cons_append, BranchCache.lookupAll, answered]
      exact inductionHypothesis first.faithful others

/-- Looking up texts ends with one that is refused. -/
theorem Faithful.cache_lookupAll_cons
    (faithful : cache.Faithful log)
    {refused : String}
    {cause : SelectorError}
    (parsed : Branch.parse refused = .error cause)
    (later : List String) :
    (cache.lookupAll (refused :: later)).cache = cache.after (.lookup refused) := by
  have answered : (cache.lookup refused).result = .error cause :=
    (faithful.lookup refused).result.trans parsed
  rw [BranchCache.lookupAll, answered]
  rfl

section Runs

variable (capacity : Option Nat) (calls : List CacheCall)

/-- Whatever calls were made, what the cache keeps was warned of in some log. -/
theorem exists_faithful_afterAll :
    ∃ log, ((ofCapacity capacity).afterAll calls).Faithful log :=
  (recalls_afterAll capacity calls).exists_faithful

/-- Texts that can all be read are all looked up. -/
theorem cache_lookupAll_of_readable
    (readable : ∀ text ∈ texts, Branch.isReadable text = true) :
    (((ofCapacity capacity).afterAll calls).lookupAll texts).cache =
      ((ofCapacity capacity).afterAll calls).afterAll (texts.map .lookup) := by
  obtain ⟨log, faithful⟩ := exists_faithful_afterAll capacity calls
  have looked := faithful.cache_lookupAll_append readable []
  rwa [List.append_nil] at looked

/-- Texts are looked up as far as the first that is refused, and no further. -/
theorem cache_lookupAll_of_firstRefused
    {refused : String}
    {cause : SelectorError}
    (first : FirstRefused texts earlier refused cause) :
    (((ofCapacity capacity).afterAll calls).lookupAll texts).cache =
      ((ofCapacity capacity).afterAll calls).afterAll ((earlier ++ [refused]).map .lookup) := by
  obtain ⟨later, rfl⟩ := first.place
  obtain ⟨_, before⟩ := exists_faithful_afterAll capacity calls
  obtain ⟨_, arrived⟩ := exists_faithful_afterAll capacity (calls ++ earlier.map .lookup)
  rw [before.cache_lookupAll_append first.readable, ← afterAll_append,
    arrived.cache_lookupAll_cons first.cause, ← afterAll_concat, List.append_assoc,
    afterAll_append, List.map_append, List.map_singleton]

/-- Every look-up is counted, as a hit or as a miss. -/
theorem hits_add_misses_afterAll_lookups (texts : List String) :
    let cache := (ofCapacity capacity).afterAll calls
    (cache.afterAll (texts.map .lookup)).hits + (cache.afterAll (texts.map .lookup)).misses =
      cache.hits + cache.misses + texts.length := by
  intro cache
  rw [← afterAll_append, hits_add_misses_afterAll, CacheCall.lookedUp_lookups,
    List.length_append, ← hits_add_misses_afterAll capacity]

end Runs

end BranchCache

/-- Planning does nothing to the cache but look up the branches of the selector. -/
theorem Engine.cache_plan
    (engine : Engine)
    (selector : String) :
    (engine.plan selector).engine.cache =
      (engine.cache.lookupAll (branchTexts selector)).cache := by
  unfold plan
  cases branchTexts selector <;> rfl

/--
In whatever state the cache is, there are three answers. A selector with nothing but blanks between
its commas is refused as empty. Its branches are what stands between the commas, trimmed and not
empty. If all of them can be read, it has the plan of them in order, and all of them were looked up. Otherwise the first that is refused is to blame: the error says so of
the whole selector, its cause is about this branch, and no branch behind it was looked up.
-/
theorem plan_outcome
    (capacity : Option Nat)
    (calls : List CacheCall)
    (selector : String) :
    let cache := (BranchCache.ofCapacity capacity).afterAll calls
    let reply := Engine.plan { cache := cache } selector
    let texts :=
      (((selector.toList.splitOn ',').map trim).filter fun piece => piece ≠ []).map String.ofList
    (reply.result = .error (.empty selector) ↔
        ∀ piece ∈ selector.toList.splitOn ',', trim piece = []) ∧
      ((∃ plan, reply.result = .ok plan) ↔
        texts ≠ [] ∧ ∀ text ∈ texts, Branch.isReadable text = true) ∧
      (∀ plan,
        reply.result = .ok plan →
          List.Forall₂ (fun text branch => Branch.parse text = .ok branch) texts plan ∧
            reply.engine.cache = cache.afterAll (texts.map .lookup)) ∧
      ((∃ text ∈ texts, Branch.isReadable text = false) →
        ∃ earlier refused cause,
          FirstRefused texts earlier refused cause ∧
            reply.result = .error (.inSelector selector cause) ∧
            BlamesBranch selector refused cause ∧
            reply.engine.cache = cache.afterAll ((earlier ++ [refused]).map .lookup) ∧
            reply.engine.cache.hits + reply.engine.cache.misses =
              cache.hits + cache.misses + (earlier.length + 1)) := by
  intro cache reply texts
  obtain ⟨log, faithful⟩ := BranchCache.exists_faithful_afterAll capacity calls
  have answered : reply.result = Plan.parse selector :=
    (Engine.plan_mirrors faithful selector).result
  have branches : branchTexts selector = texts := branchTexts_eq
  have looked : reply.engine.cache = (cache.lookupAll texts).cache :=
    branches ▸ Engine.cache_plan _ selector
  rw [answered, looked, ← branches]
  refine ⟨Plan.parse_eq_empty_iff.trans branchTexts_eq_nil_iff, Plan.exists_parse_iff, ?_, ?_⟩
  · intro plan parsed
    obtain ⟨_, readable⟩ := Plan.exists_parse_iff.mp ⟨plan, parsed⟩
    exact ⟨mapM_parse_eq_ok_iff.mp (Plan.parse_eq_ok_iff.mp parsed).2,
      BranchCache.cache_lookupAll_of_readable capacity calls readable⟩
  · rintro ⟨text, member, unreadable⟩
    obtain ⟨earlier, refused, cause, first⟩ := exists_firstRefused member unreadable
    have left := BranchCache.cache_lookupAll_of_firstRefused capacity calls first
    have counted :=
      BranchCache.hits_add_misses_afterAll_lookups capacity calls (earlier ++ [refused])
    refine ⟨earlier, refused, cause, first, Plan.parse_of_firstRefused first,
      blamesBranch_of_mem_branchTexts first.mem first.cause, left, ?_⟩
    rw [left, counted, List.length_append, List.length_singleton]

/-- The second of three branches is to blame, and the third is not looked up. -/
theorem plan_outcome_unclosed :
    let selector := "ul > li ,, p[x , em:hover"
    let cache := (BranchCache.ofCapacity (some 2)).afterAll [.lookup "b", .lookup "ul > li"]
    let reply := Engine.plan { cache := cache } selector
    reply.result = .error (.inSelector selector (.unparsed "p[x" 1 "[x")) ∧
      BlamesBranch selector "p[x" (.unparsed "p[x" 1 "[x") ∧
      reply.engine.cache.hits + reply.engine.cache.misses = 4 := by
  intro selector cache reply
  obtain ⟨_, _, _, refusal⟩ := plan_outcome (some 2) [.lookup "b", .lookup "ul > li"] selector
  have result : reply.result = .error (.inSelector selector (.unparsed "p[x" 1 "[x")) := by
    decide +kernel
  obtain ⟨_, refused, _, _, wrapped, blames, _, _⟩ :=
    refusal ⟨"p[x", by decide +kernel, by decide +kernel⟩
  cases wrapped.symm.trans result
  have same : refused = "p[x" := by
    simpa [eq_comm] using blames.kind
  exact ⟨result, same ▸ blames, by decide +kernel⟩

end MarkupQuery.Selector

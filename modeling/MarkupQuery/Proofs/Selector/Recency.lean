import MarkupQuery.Proofs.Selector.Found
import MarkupQuery.Selector.Cache

namespace MarkupQuery.Selector

/-!
# What a cache keeps

A cache is looked up, peeked into and cleared over and over. What it keeps at any moment can be told
from the calls alone: of the branches that were looked up since it was last cleared and that can be
read, those looked up last, as many different ones as there is room for.
-/

inductive CacheCall where
  | lookup (branch : String)
  | peek (branch : String)
  | clear
  deriving DecidableEq

namespace CacheCall

/-- The branch that a call looks up. Peeking at a branch is not looking it up. -/
def looksUp? : CacheCall → Option String
  | .lookup branch => some branch
  | _ => none

/-- Whether a call is a peek. -/
def isPeek : CacheCall → Bool
  | .peek _ => true
  | _ => false

/-- The branches looked up since the last time that the cache was cleared, in order. -/
def lookedUp (calls : List CacheCall) : List String :=
  (calls.reverse.takeWhile (· ≠ .clear)).reverse.filterMap looksUp?

end CacheCall

/-- Whether a branch can be read. -/
def Branch.isReadable (branch : String) : Bool :=
  (Branch.parse branch).isOk

/-- The different branches among some that can be read, the one that occurs last first. -/
def latestReadable (branches : List String) : List String :=
  (branches.filter Branch.isReadable).reverse.eraseDups

namespace BranchCache

/-- A new cache with room for some number of branches, and for one at least, or for all. -/
def ofCapacity : Option Nat → BranchCache
  | none => .unbounded
  | some capacity => .bounded capacity

/-- The cache after a call. -/
def after (cache : BranchCache) : CacheCall → BranchCache
  | .lookup branch => (cache.lookup branch).cache
  | .peek _ => cache
  | .clear => cache.clear

/-- The cache after calls in turn. -/
def afterAll (cache : BranchCache) (calls : List CacheCall) : BranchCache :=
  calls.foldl after cache

/-- The texts under which branches are kept, the most recently used one first. -/
def keys (cache : BranchCache) : List String :=
  cache.entries.map Prod.fst

/-- The first items of a list, as many as there is room for. -/
def fitting
    {α : Type}
    (cache : BranchCache)
    (items : List α) :
    List α :=
  match cache.capacity with
  | none => items
  | some capacity => items.take capacity

end BranchCache

section Calls

variable {calls : List CacheCall} {branch : String}

/-- A text is readable if it has segments. -/
theorem Branch.isReadable_iff :
    isReadable branch = true ↔ ∃ segments, parse branch = .ok segments := by
  unfold isReadable
  cases parse branch <;> simp [Except.isOk, Except.toBool]

/-- A text is unreadable if there is a reason why. -/
theorem Branch.isReadable_eq_false_iff :
    isReadable branch = false ↔ ∃ failure, parse branch = .error failure := by
  unfold isReadable
  cases parse branch <;> simp [Except.isOk, Except.toBool]

/-- A look-up is the latest of those that count. -/
theorem CacheCall.lookedUp_lookup :
    lookedUp (calls ++ [.lookup branch]) = lookedUp calls ++ [branch] := by
  simp [lookedUp, looksUp?]

/-- Look-ups in a row are the latest of those that count, in their order. -/
theorem CacheCall.lookedUp_lookups (branches : List String) :
    lookedUp (calls ++ branches.map .lookup) = lookedUp calls ++ branches := by
  induction branches using List.reverseRecOn with
  | nil =>
      simp
  | append_singleton branches branch inductionHypothesis =>
      rw [List.map_append, ← List.append_assoc, List.map_singleton, lookedUp_lookup,
        inductionHypothesis, List.append_assoc]

/-- Peeking is no look-up. -/
theorem CacheCall.lookedUp_peek :
    lookedUp (calls ++ [.peek branch]) = lookedUp calls := by
  simp [lookedUp, looksUp?]

/-- No look-up before a clearing counts. -/
theorem CacheCall.lookedUp_clear :
    lookedUp (calls ++ [.clear]) = [] := by
  simp [lookedUp]

/-- A branch that is looked up again becomes the latest and leaves its place. -/
theorem latestReadable_concat
    {branches : List String}
    (readable : Branch.isReadable branch = true) :
    latestReadable (branches ++ [branch]) =
      branch :: (latestReadable branches).filter (· != branch) := by
  simp only [latestReadable, List.filter_append, List.filter_cons_of_pos readable,
    List.filter_nil, List.reverse_append, List.reverse_singleton, List.singleton_append,
    List.eraseDups_cons, ← eraseDups_filter]
  rfl

/-- A branch that is refused leaves the readable ones as they were. -/
theorem latestReadable_concat_of_refused
    {branches : List String}
    (refused : Branch.isReadable branch = false) :
    latestReadable (branches ++ [branch]) = latestReadable branches := by
  simp [latestReadable, refused]

/-- Each readable branch is listed once. -/
theorem nodup_latestReadable (branches : List String) :
    (latestReadable branches).Nodup :=
  nodup_eraseDups _

end Calls

/--
Without one item, the first few of a list of different items are still among its first few and one
more.
-/
theorem take_filter_take
    {α : Type}
    [BEq α]
    [LawfulBEq α]
    {items : List α}
    (noDuplicates : items.Nodup)
    (item : α)
    (count : Nat) :
    ((items.take (count + 1)).filter (· != item)).take count =
      (items.filter (· != item)).take count := by
  induction items generalizing count with
  | nil =>
      rfl
  | cons first rest inductionHypothesis =>
      obtain ⟨fresh, restNodup⟩ := List.nodup_cons.mp noDuplicates
      rw [List.take_succ_cons]
      by_cases same : first = item
      · -- The item is gone from the rest, of which one more is left.
        subst same
        have others : ∀ other ∈ rest, (other != first) = true := by
          intro other member
          have different : other ≠ first := fun back => fresh (back ▸ member)
          simpa using different
        have fewOthers : ∀ other ∈ rest.take count, (other != first) = true :=
          fun other member => others other (List.mem_of_mem_take member)
        simp only [List.filter_cons, bne_self_eq_false, Bool.false_eq_true, if_false,
          List.filter_eq_self.mpr others, List.filter_eq_self.mpr fewOthers, List.take_take,
          Nat.min_self]
      · cases count with
        | zero =>
            simp
        | succ count =>
            have kept : (first != item) = true := by
              simpa using same
            simp only [List.filter_cons, kept, if_true, List.take_succ_cons,
              inductionHypothesis restNodup]

namespace BranchCache

/-- What a cache keeps is what some look-ups left behind, and there is room for a branch. -/
structure Recalls
    (cache : BranchCache)
    (branches : List String) : Prop where
  keys :
    cache.keys = cache.fitting (latestReadable branches)
  read :
    ∀ entry ∈ cache.entries, Branch.parse entry.1 = .ok entry.2
  room :
    ∀ capacity, cache.capacity = some capacity → 0 < capacity

section Operations

variable {cache : BranchCache} {branches : List String} {branch : String} {segments : Branch}

/-- What is stored stands in front of the others, as far as there is room. -/
theorem entries_store :
    (cache.store branch segments).entries =
      cache.fitting ((branch, segments) :: cache.entries.filter fun entry => entry.1 != branch) :=
  rfl

/-- How much fits depends on the number of items alone. -/
theorem map_fitting
    {α β : Type}
    (f : α → β)
    (items : List α) :
    (cache.fitting items).map f = cache.fitting (items.map f) := by
  unfold fitting
  split
  · rfl
  · exact List.map_take

/-- What fits was there before. -/
theorem mem_of_mem_fitting
    {α : Type}
    {items : List α}
    {item : α}
    (member : item ∈ cache.fitting items) :
    item ∈ items := by
  unfold fitting at member
  split at member
  · exact member
  · exact List.mem_of_mem_take member

/-- Storing a branch puts no other one into a cache. -/
theorem mem_entries_store
    {entry : String × Branch}
    (member : entry ∈ (cache.store branch segments).entries) :
    entry = (branch, segments) ∨ entry ∈ cache.entries := by
  rw [entries_store] at member
  rcases List.mem_cons.mp (mem_of_mem_fitting member) with stored | kept
  · exact Or.inl stored
  · exact Or.inr (List.mem_filter.mp kept).1

/-- The text that is stored is in front, and was moved there if it stood behind. -/
theorem keys_store :
    (cache.store branch segments).keys =
      cache.fitting (branch :: cache.keys.filter (· != branch)) := by
  rw [keys, entries_store, map_fitting, List.map_cons, keys, List.filter_map]
  rfl

/-- A branch is kept under its text or not at all. -/
theorem peek?_eq_none_iff :
    cache.peek? branch = none ↔ branch ∉ cache.keys := by
  rw [peek?, List.lookup_eq_none_iff, keys, List.mem_map]
  constructor
  · rintro other ⟨entry, member, rfl⟩
    simpa using other entry member
  · intro absent entry member
    simpa using fun same => absent ⟨entry, member, same.symm⟩

/-- What peeking finds is an entry. -/
theorem mem_entries_of_peek?
    (kept : cache.peek? branch = some segments) :
    (branch, segments) ∈ cache.entries := by
  obtain ⟨earlier, later, shape, _⟩ := List.lookup_eq_some_iff.mp kept
  simp [shape]

/-- What peeking finds is kept under its text. -/
theorem mem_keys_of_peek?
    (kept : cache.peek? branch = some segments) :
    branch ∈ cache.keys :=
  List.mem_map.mpr ⟨_, mem_entries_of_peek? kept, rfl⟩

/-- The cache with a look-up counted, as a hit if its branch is kept. -/
def counting (cache : BranchCache) (branch : String) : BranchCache :=
  if branch ∈ cache.keys then
    { cache with hits := cache.hits + 1 }
  else
    { cache with misses := cache.misses + 1 }

/-- A look-up is counted once, as a hit or as a miss. -/
theorem hits_add_misses_counting :
    (cache.counting branch).hits + (cache.counting branch).misses =
      cache.hits + cache.misses + 1 := by
  unfold counting
  split
  · exact Nat.add_right_comm cache.hits 1 cache.misses
  · exact (Nat.add_assoc cache.hits cache.misses 1).symm

end Operations

namespace Recalls

variable {cache : BranchCache} {branches : List String} {branch : String} {segments : Branch}

/-- Every branch that is kept can be read. -/
theorem isReadable_of_mem_keys
    (recalls : cache.Recalls branches)
    (kept : branch ∈ cache.keys) :
    Branch.isReadable branch = true := by
  obtain ⟨entry, member, rfl⟩ := List.mem_map.mp kept
  exact Branch.isReadable_iff.mpr ⟨entry.2, recalls.read entry member⟩

/-- A look-up is counted, and then its branch is kept if it can be read. -/
theorem lookup_eq
    (recalls : cache.Recalls branches) :
    (cache.lookup branch).cache =
      match Branch.parse branch with
      | .ok segments => (cache.counting branch).store branch segments
      | .error _ => cache.counting branch := by
  unfold lookup
  split
  · next segments kept =>
      rw [BranchCache.counting, if_pos (mem_keys_of_peek? kept),
        recalls.read _ (mem_entries_of_peek? kept)]
      rfl
  · next missing =>
      have counted : cache.counting branch = { cache with misses := cache.misses + 1 } :=
        if_neg (peek?_eq_none_iff.mp missing)
      cases Branch.parse branch with
      | error _ =>
          exact counted.symm
      | ok segments =>
          exact congrArg (fun missed => missed.store branch segments) counted.symm

/-- Counting changes nothing about what is kept. -/
theorem counting (recalls : cache.Recalls branches) :
    (cache.counting branch).Recalls branches := by
  unfold BranchCache.counting
  split
  · exact ⟨recalls.keys, recalls.read, recalls.room⟩
  · exact ⟨recalls.keys, recalls.read, recalls.room⟩

/-- Storing a branch moves it to the front, and the one used least recently may have to go. -/
theorem store
    (recalls : cache.Recalls branches)
    (parsed : Branch.parse branch = .ok segments) :
    (cache.store branch segments).Recalls (branches ++ [branch]) where
  keys := by
    have readable := Branch.isReadable_iff.mpr ⟨segments, parsed⟩
    rw [keys_store, recalls.keys, latestReadable_concat readable]
    unfold fitting
    cases bound : cache.capacity with
    | none =>
        simp [BranchCache.store, bound]
    | some capacity =>
        obtain ⟨others, rfl⟩ := Nat.exists_eq_add_one.mpr (recalls.room capacity bound)
        simp [BranchCache.store, bound, take_filter_take (nodup_latestReadable branches)]
  read := by
    intro entry member
    rcases mem_entries_store member with rfl | kept
    · exact parsed
    · exact recalls.read entry kept
  room := recalls.room

/-- A branch that is refused leaves everything in its place. -/
theorem refused
    (recalls : cache.Recalls branches)
    {failure : SelectorError}
    (parsed : Branch.parse branch = .error failure) :
    cache.Recalls (branches ++ [branch]) where
  keys := by
    have unreadable := Branch.isReadable_eq_false_iff.mpr ⟨failure, parsed⟩
    rw [latestReadable_concat_of_refused unreadable]
    exact recalls.keys
  read := recalls.read
  room := recalls.room

/-- After a look-up the cache has one more text to recall. -/
theorem lookup (recalls : cache.Recalls branches) :
    (cache.lookup branch).cache.Recalls (branches ++ [branch]) := by
  rw [recalls.lookup_eq]
  cases parsed : Branch.parse branch with
  | error failure =>
      exact recalls.counting.refused parsed
  | ok segments =>
      exact recalls.counting.store parsed

/-- A cache that was cleared has nothing to recall. -/
theorem clear (recalls : cache.Recalls branches) :
    cache.clear.Recalls [] where
  keys := by
    unfold fitting
    split <;> simp [BranchCache.clear, BranchCache.keys, latestReadable]
  read := by
    simp [BranchCache.clear]
  room := recalls.room

end Recalls

/-- No more is kept than there is room for. -/
theorem Recalls.size_le
    {cache : BranchCache}
    {branches : List String}
    (recalls : cache.Recalls branches)
    {capacity : Nat}
    (bound : cache.capacity = some capacity) :
    cache.size ≤ capacity := by
  have counted : cache.size = cache.keys.length := by
    rw [BranchCache.keys, List.length_map, size]
  rw [counted, recalls.keys]
  simp only [fitting, bound]
  exact List.length_take_le _ _

/-- A branch is answered from the cache just as if it were read. -/
theorem Recalls.peek?_eq
    {cache : BranchCache}
    {branches : List String}
    (recalls : cache.Recalls branches)
    (branch : String) :
    cache.peek? branch =
      if branch ∈ cache.keys then (Branch.parse branch).toOption else none := by
  cases kept : cache.peek? branch with
  | none =>
      rw [if_neg (peek?_eq_none_iff.mp kept)]
  | some segments =>
      rw [if_pos (mem_keys_of_peek? kept), recalls.read _ (mem_entries_of_peek? kept)]
      rfl

section Runs

variable (capacity : Option Nat) (calls : List CacheCall)

/-- A last call comes after all others. -/
theorem afterAll_concat
    (cache : BranchCache)
    (call : CacheCall) :
    cache.afterAll (calls ++ [call]) = (cache.afterAll calls).after call := by
  simp [afterAll]

/-- Calls in two parts are made one part after the other. -/
theorem afterAll_append
    (cache : BranchCache)
    (later : List CacheCall) :
    cache.afterAll (calls ++ later) = (cache.afterAll calls).afterAll later :=
  List.foldl_append

/-- A new cache has nothing to recall. -/
theorem recalls_ofCapacity :
    (ofCapacity capacity).Recalls [] := by
  cases capacity with
  | none =>
      exact ⟨rfl, by simp [ofCapacity, unbounded], by simp [ofCapacity, unbounded]⟩
  | some capacity =>
      refine ⟨?_, by simp [ofCapacity, bounded], ?_⟩
      · simp [ofCapacity, bounded, keys, fitting, latestReadable]
      · intro room given
        exact Option.some.inj given ▸ Nat.lt_of_lt_of_le Nat.one_pos (Nat.le_max_right _ _)

/-- What is kept after calls is what the look-ups since the last clearing left behind. -/
theorem recalls_afterAll :
    ((ofCapacity capacity).afterAll calls).Recalls (CacheCall.lookedUp calls) := by
  induction calls using List.reverseRecOn with
  | nil =>
      exact recalls_ofCapacity capacity
  | append_singleton calls call inductionHypothesis =>
      rw [afterAll_concat]
      cases call with
      | lookup branch =>
          rw [CacheCall.lookedUp_lookup]
          exact inductionHypothesis.lookup
      | peek branch =>
          rw [CacheCall.lookedUp_peek]
          exact inductionHypothesis
      | clear =>
          rw [CacheCall.lookedUp_clear]
          exact inductionHypothesis.clear

/-- No call changes how much room there is. -/
theorem capacity_afterAll :
    ((ofCapacity capacity).afterAll calls).capacity = capacity.map (max · 1) := by
  induction calls using List.reverseRecOn with
  | nil =>
      cases capacity <;> rfl
  | append_singleton calls call inductionHypothesis =>
      rw [afterAll_concat, ← inductionHypothesis]
      cases call with
      | lookup branch =>
          rw [after, (recalls_afterAll capacity calls).lookup_eq, counting]
          split <;> split <;> rfl
      | peek branch =>
          rfl
      | clear =>
          rfl

/-- Hits and misses together count the look-ups since the last clearing. -/
theorem hits_add_misses_afterAll :
    ((ofCapacity capacity).afterAll calls).hits + ((ofCapacity capacity).afterAll calls).misses =
      (CacheCall.lookedUp calls).length := by
  induction calls using List.reverseRecOn with
  | nil =>
      cases capacity <;> rfl
  | append_singleton calls call inductionHypothesis =>
      rw [afterAll_concat]
      cases call with
      | lookup branch =>
          rw [CacheCall.lookedUp_lookup, List.length_append, ← inductionHypothesis, after,
            (recalls_afterAll capacity calls).lookup_eq]
          cases Branch.parse branch with
          | error failure =>
              exact hits_add_misses_counting
          | ok segments =>
              exact hits_add_misses_counting
      | peek branch =>
          rw [CacheCall.lookedUp_peek, ← inductionHypothesis, after]
      | clear =>
          rw [CacheCall.lookedUp_clear]
          rfl

/-- Calls leave the same cache behind whether or not it is peeked into between them. -/
theorem afterAll_filter_isPeek (cache : BranchCache) :
    cache.afterAll (calls.filter fun call => !call.isPeek) = cache.afterAll calls := by
  induction calls generalizing cache with
  | nil =>
      rfl
  | cons call calls inductionHypothesis =>
      cases call with
      | lookup branch =>
          exact inductionHypothesis (cache.after (.lookup branch))
      | peek branch =>
          exact inductionHypothesis cache
      | clear =>
          exact inductionHypothesis (cache.after .clear)

end Runs

/--
After any calls on a cache of any capacity: it keeps the branches that were looked up last since it
was last cleared, of those that can be read and as many different ones as there is room for, each
with what it reads as. Hits and misses together count these look-ups. The next look-up is a hit if
its branch is kept and a miss otherwise, and of a branch that is refused nothing else remains.
Peeking changes nothing, and the room stays what it was.
-/
theorem afterAll_keeps_latest
    (capacity : Option Nat)
    (calls : List CacheCall) :
    let cache := (ofCapacity capacity).afterAll calls
    cache.capacity = capacity.map (max · 1) ∧
      cache.keys = cache.fitting (latestReadable (CacheCall.lookedUp calls)) ∧
      (∀ entry ∈ cache.entries, Branch.parse entry.1 = .ok entry.2) ∧
      (∀ room, cache.capacity = some room → cache.size ≤ room) ∧
      cache.hits + cache.misses = (CacheCall.lookedUp calls).length ∧
      (∀ branch,
        let next := (cache.lookup branch).cache
        (branch ∈ cache.keys → next.hits = cache.hits + 1 ∧ next.misses = cache.misses) ∧
          (branch ∉ cache.keys → next.hits = cache.hits ∧ next.misses = cache.misses + 1)) ∧
      (∀ branch failure,
        Branch.parse branch = .error failure →
          (cache.lookup branch).cache = { cache with misses := cache.misses + 1 }) ∧
      (∀ branch,
        cache.peek? branch =
          if branch ∈ cache.keys then (Branch.parse branch).toOption else none) ∧
      (ofCapacity capacity).afterAll (calls.filter fun call => !call.isPeek) = cache := by
  intro cache
  have recalls : cache.Recalls (CacheCall.lookedUp calls) := recalls_afterAll capacity calls
  refine ⟨capacity_afterAll capacity calls, recalls.keys, recalls.read,
    fun room bound => recalls.size_le bound, hits_add_misses_afterAll capacity calls, ?_, ?_,
    recalls.peek?_eq, afterAll_filter_isPeek calls _⟩
  · intro branch
    rw [recalls.lookup_eq, counting]
    constructor
    · intro kept
      rw [if_pos kept]
      cases Branch.parse branch <;> exact ⟨rfl, rfl⟩
    · intro absent
      rw [if_neg absent]
      cases Branch.parse branch <;> exact ⟨rfl, rfl⟩
  · intro branch failure refused
    have absent : branch ∉ cache.keys := by
      intro kept
      have unreadable := Branch.isReadable_eq_false_iff.mpr ⟨failure, refused⟩
      rw [recalls.isReadable_of_mem_keys kept] at unreadable
      cases unreadable
    rw [recalls.lookup_eq, counting, if_neg absent, refused]

/-- Looking up `a` again saves it from giving way; peeking at `b` does not save that. -/
example :
    let cache := (ofCapacity (some 2)).afterAll
      [.lookup "a", .lookup "b", .lookup "a", .peek "b", .lookup "div[", .lookup "c"]
    (cache.keys, cache.hits, cache.misses) = (["c", "a"], 1, 4) := by
  decide +kernel

end BranchCache

end MarkupQuery.Selector

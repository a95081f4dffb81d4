import MarkupQuery.Proofs.Selector.Recency

namespace MarkupQuery.Selector.BranchCache

/-!
# Caches with more room

The same calls are made on two caches, one of which has more room than the other. Each keeps the
branches that were looked up last, so what the smaller one keeps is the front of what the larger one
keeps: a branch that is found in the smaller cache is found in the larger one as well. It is the
common order of use that gives this; an order of each cache's own would not.
-/

/--
There is room for no more branches than in another cache. Room is for one branch at least, and
without a bound it is for all of them.
-/
def NoMoreRoom : (smaller larger : Option Nat) → Prop
  | _, none => True
  | none, some _ => False
  | some smaller, some larger => max smaller 1 ≤ max larger 1

/--
Two caches that the same calls have been made on: what either keeps was left behind by the same
look-ups, of which the one with more room has answered at least as many itself.
-/
structure Coupled
    (smaller larger : BranchCache)
    (branches : List String) : Prop where
  smallerRecalls :
    smaller.Recalls branches
  largerRecalls :
    larger.Recalls branches
  room :
    NoMoreRoom smaller.capacity larger.capacity
  hits :
    smaller.hits ≤ larger.hits
  misses :
    larger.misses ≤ smaller.misses

section Lookups

variable {cache : BranchCache} {branches : List String} {branch : String}

/-- A look-up answers what reading the branch gives. -/
theorem Recalls.result_lookup (recalls : cache.Recalls branches) :
    (cache.lookup branch).result = Branch.parse branch := by
  unfold BranchCache.lookup
  split
  · next segments kept =>
      exact (recalls.read _ (mem_entries_of_peek? kept)).symm
  · rfl

/-- Whether or not its branch can be read, a look-up is counted. -/
theorem Recalls.hits_lookup (recalls : cache.Recalls branches) :
    (cache.lookup branch).cache.hits = (cache.counting branch).hits := by
  rw [recalls.lookup_eq]
  cases Branch.parse branch <;> rfl

theorem Recalls.misses_lookup (recalls : cache.Recalls branches) :
    (cache.lookup branch).cache.misses = (cache.counting branch).misses := by
  rw [recalls.lookup_eq]
  cases Branch.parse branch <;> rfl

theorem Recalls.capacity_lookup (recalls : cache.Recalls branches) :
    (cache.lookup branch).cache.capacity = cache.capacity := by
  have counted : (cache.counting branch).capacity = cache.capacity := by
    unfold BranchCache.counting
    split <;> rfl
  rw [recalls.lookup_eq, ← counted]
  cases Branch.parse branch <;> rfl

end Lookups

namespace Coupled

variable {smaller larger : BranchCache} {branches : List String} {branch : String}

/-- What the smaller cache keeps is the front of what the larger one keeps. -/
theorem keys_prefix (coupled : smaller.Coupled larger branches) :
    smaller.keys <+: larger.keys := by
  have room := coupled.room
  rw [coupled.smallerRecalls.keys, coupled.largerRecalls.keys]
  unfold fitting
  cases large : larger.capacity with
  | none =>
      cases smaller.capacity with
      | none =>
          exact List.prefix_refl _
      | some _ =>
          exact List.take_prefix _ _
  | some many =>
      cases small : smaller.capacity with
      | none =>
          rw [small, large] at room
          exact room.elim
      | some few =>
          have someRoom := coupled.largerRecalls.room many large
          rw [small, large, NoMoreRoom] at room
          exact List.take_prefix_take_left (by omega)

/-- What is found in the smaller cache is found in the larger one. -/
theorem mem_keys
    (coupled : smaller.Coupled larger branches)
    (kept : branch ∈ smaller.keys) :
    branch ∈ larger.keys :=
  coupled.keys_prefix.subset kept

/-- A look-up that the smaller cache answers itself is answered by the larger one itself. -/
theorem counting_le (coupled : smaller.Coupled larger branches) :
    (smaller.counting branch).hits ≤ (larger.counting branch).hits ∧
      (larger.counting branch).misses ≤ (smaller.counting branch).misses := by
  have hits := coupled.hits
  have misses := coupled.misses
  unfold counting
  by_cases kept : branch ∈ smaller.keys
  · rw [if_pos kept, if_pos (coupled.mem_keys kept)]
    exact ⟨Nat.succ_le_succ hits, misses⟩
  · rw [if_neg kept]
    split
    · exact ⟨Nat.le_succ_of_le hits, Nat.le_succ_of_le misses⟩
    · exact ⟨hits, Nat.succ_le_succ misses⟩

theorem lookup (coupled : smaller.Coupled larger branches) :
    (smaller.lookup branch).cache.Coupled (larger.lookup branch).cache (branches ++ [branch]) where
  smallerRecalls := coupled.smallerRecalls.lookup
  largerRecalls := coupled.largerRecalls.lookup
  room := by
    rw [coupled.smallerRecalls.capacity_lookup, coupled.largerRecalls.capacity_lookup]
    exact coupled.room
  hits := by
    rw [coupled.smallerRecalls.hits_lookup, coupled.largerRecalls.hits_lookup]
    exact coupled.counting_le.1
  misses := by
    rw [coupled.smallerRecalls.misses_lookup, coupled.largerRecalls.misses_lookup]
    exact coupled.counting_le.2

theorem clear (coupled : smaller.Coupled larger branches) :
    smaller.clear.Coupled larger.clear [] where
  smallerRecalls := coupled.smallerRecalls.clear
  largerRecalls := coupled.largerRecalls.clear
  room := coupled.room
  hits := Nat.le_refl 0
  misses := Nat.le_refl 0

/-- Two caches stay coupled when the same call is made on both. -/
theorem after
    (coupled : smaller.Coupled larger branches)
    (call : CacheCall) :
    ∃ later, (smaller.after call).Coupled (larger.after call) later := by
  cases call with
  | lookup branch =>
      exact ⟨branches ++ [branch], coupled.lookup⟩
  | peek branch =>
      exact ⟨branches, coupled⟩
  | clear =>
      exact ⟨[], coupled.clear⟩

theorem afterAll
    (coupled : smaller.Coupled larger branches)
    (calls : List CacheCall) :
    ∃ later, (smaller.afterAll calls).Coupled (larger.afterAll calls) later := by
  induction calls generalizing smaller larger branches with
  | nil =>
      exact ⟨branches, coupled⟩
  | cons call calls inductionHypothesis =>
      obtain ⟨_, coupledThere⟩ := coupled.after call
      exact inductionHypothesis coupledThere

end Coupled

/-- New caches are coupled, if one has no more room than the other. -/
theorem coupled_ofCapacity
    {smaller larger : Option Nat}
    (room : NoMoreRoom smaller larger) :
    (ofCapacity smaller).Coupled (ofCapacity larger) [] where
  smallerRecalls := recalls_ofCapacity smaller
  largerRecalls := recalls_ofCapacity larger
  room := by
    cases larger with
    | none =>
        cases smaller <;> exact trivial
    | some many =>
        cases smaller with
        | none =>
            exact room.elim
        | some few =>
            rw [NoMoreRoom] at room
            simp only [ofCapacity, bounded, NoMoreRoom]
            omega
  hits := by
    cases smaller <;> exact Nat.zero_le _
  misses := by
    cases larger <;> exact Nat.zero_le _

/--
After the same calls on two new caches, of which one has no more room than the other: the larger one
keeps every branch that the smaller one keeps, in front of those that it keeps besides. It has
answered at least as many look-ups itself and had to read at most as many branches. The next look-up
gives the same in both, and what is found by peeking into the smaller cache is found in the larger
one, and the same.
-/
theorem afterAll_larger
    {smaller larger : Option Nat}
    (room : NoMoreRoom smaller larger)
    (calls : List CacheCall) :
    let small := (ofCapacity smaller).afterAll calls
    let large := (ofCapacity larger).afterAll calls
    small.keys <+: large.keys ∧
      small.hits ≤ large.hits ∧
      large.misses ≤ small.misses ∧
      (∀ branch, (small.lookup branch).result = (large.lookup branch).result) ∧
      ∀ branch segments,
        small.peek? branch = some segments → large.peek? branch = some segments := by
  intro small large
  obtain ⟨_, coupled⟩ := (coupled_ofCapacity room).afterAll calls
  refine ⟨coupled.keys_prefix, coupled.hits, coupled.misses, ?_, ?_⟩
  · intro branch
    rw [coupled.smallerRecalls.result_lookup, coupled.largerRecalls.result_lookup]
  · intro branch segments found
    have kept := mem_keys_of_peek? found
    rw [coupled.smallerRecalls.peek?_eq, if_pos kept] at found
    rw [coupled.largerRecalls.peek?_eq, if_pos (coupled.mem_keys kept), found]

/-- With room for three branches `a` is still there when it is looked up again. -/
theorem afterAll_larger_three :
    let calls : List CacheCall :=
      [.lookup "a", .lookup "b", .peek "a", .lookup "c", .lookup "a", .lookup "b["]
    let small := (ofCapacity (some 2)).afterAll calls
    let large := (ofCapacity (some 3)).afterAll calls
    NoMoreRoom (some 2) (some 3) ∧
      (small.keys, small.hits, small.misses) = (["a", "c"], 0, 5) ∧
      (large.keys, large.hits, large.misses) = (["a", "c", "b"], 1, 4) ∧
      small.keys <+: large.keys ∧
      small.hits ≤ large.hits ∧
      large.misses ≤ small.misses ∧
      (∀ branch, (small.lookup branch).result = (large.lookup branch).result) ∧
      ∀ branch segments,
        small.peek? branch = some segments → large.peek? branch = some segments := by
  intro calls small large
  have room : NoMoreRoom (some 2) (some 3) := by
    rw [NoMoreRoom]
    decide
  exact ⟨room, by decide +kernel, by decide +kernel, afterAll_larger room calls⟩

end MarkupQuery.Selector.BranchCache

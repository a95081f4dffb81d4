import MarkupQuery.Selector.Plan

namespace MarkupQuery.Selector

/-!
# Remembering branches that were read

A branch cache keeps branches under their text, the most recently used one first. A bounded cache
drops the least recently used branch when it is full. Branches that are refused are not kept, so
each look-up of one counts as a miss again.
-/

/-- Branches under their text, the most recently used one first, and how often that was of use. -/
structure BranchCache where
  /-- The greatest number of branches, `none` when there is no bound. -/
  capacity : Option Nat := none
  entries : List (String × Branch) := []
  hits : Nat := 0
  misses : Nat := 0
  deriving Repr, DecidableEq

/-- What an operation that goes through the cache answers, warns about and leaves behind. -/
structure Answer (α : Type) where
  result : Except SelectorError α
  warnings : List Warning
  cache : BranchCache

namespace BranchCache

/-- An empty cache without a bound. -/
def unbounded : BranchCache := {}

/-- An empty cache with room for `capacity` branches, and for one at least. -/
def bounded (capacity : Nat) : BranchCache :=
  { capacity := some (max capacity 1) }

/-- The number of branches kept. -/
def size (cache : BranchCache) : Nat :=
  cache.entries.length

/-- The branch kept under a text. Asking does not count as use. -/
def peek? (cache : BranchCache) (branch : String) : Option Branch :=
  cache.entries.lookup branch

/-- Keep a branch as the most recently used one, and no more branches than there is room for. -/
def store
    (cache : BranchCache)
    (branch : String)
    (segments : Branch) :
    BranchCache :=
  let others := cache.entries.filter fun entry => entry.1 != branch
  let entries := (branch, segments) :: others
  { cache with
    entries :=
      match cache.capacity with
      | none => entries
      | some capacity => entries.take capacity }

/-- The segments of a branch, from the cache if it is there and read and kept otherwise. -/
def lookup (cache : BranchCache) (branch : String) : Answer Branch :=
  match cache.peek? branch with
  | some segments =>
      {
        result := .ok segments
        warnings := []
        cache := { cache.store branch segments with hits := cache.hits + 1 }
      }
  | none =>
      let missed := { cache with misses := cache.misses + 1 }
      let result := Branch.parse branch
      {
        result := result
        warnings := Branch.parseWarnings branch
        cache :=
          match result with
          | .ok segments => missed.store branch segments
          | .error _ => missed
      }

/-- Look up branches from left to right as long as none is refused. -/
def lookupAll (cache : BranchCache) : List String → Answer Plan
  | [] => { result := .ok [], warnings := [], cache := cache }
  | branch :: branches =>
      let first := cache.lookup branch
      match first.result with
      | .error error =>
          { result := .error error, warnings := first.warnings, cache := first.cache }
      | .ok segments =>
          let others := first.cache.lookupAll branches
          {
            result := others.result.map (segments :: ·)
            warnings := first.warnings ++ others.warnings
            cache := others.cache
          }

/-- Forget all branches and start counting anew. The bound stays. -/
def clear (cache : BranchCache) : BranchCache :=
  { capacity := cache.capacity }

end BranchCache

end MarkupQuery.Selector

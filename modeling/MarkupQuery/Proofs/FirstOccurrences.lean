import Mathlib.Data.List.Basic
import Mathlib.Data.List.Induction

namespace MarkupQuery

/-!
# First occurrences

Of a list with repetitions the first occurrence of every item is kept, in the order of these
occurrences. This is what sets do that remember the order in which they were filled: it does not
matter for them whether repetitions are left out early or late.
-/

section FirstOccurrences

variable {α β : Type} [BEq α] [LawfulBEq α] [BEq β] [LawfulBEq β]

/-- One more item is a first occurrence if it did not occur before. -/
theorem eraseDups_concat
    (items : List α)
    (item : α) :
    (items ++ [item]).eraseDups =
      items.eraseDups ++ if item ∈ items then [] else [item] := by
  rw [List.eraseDups_append]
  by_cases before : item ∈ items
  · simp [List.removeAll, before]
  · simp [List.removeAll, before, List.eraseDups_cons]

theorem nodup_eraseDups (items : List α) :
    items.eraseDups.Nodup := by
  induction items using List.reverseRecOn with
  | nil =>
      exact List.nodup_nil
  | append_singleton items item inductionHypothesis =>
      rw [eraseDups_concat]
      by_cases before : item ∈ items
      · simpa [before] using inductionHypothesis
      · have fresh : ∀ other ∈ items.eraseDups, ∀ new ∈ [item], other ≠ new := by
          intro other member new single same
          rw [List.mem_singleton.mp single] at same
          exact before (same ▸ List.mem_eraseDups.mp member)
        rw [if_neg before]
        exact List.nodup_append.mpr ⟨inductionHypothesis, List.pairwise_singleton _ _, fresh⟩

/-- First occurrences stand in the order of the list. -/
theorem eraseDups_sublist (items : List α) :
    items.eraseDups.Sublist items := by
  induction items using List.reverseRecOn with
  | nil =>
      exact List.nil_sublist _
  | append_singleton items item inductionHypothesis =>
      rw [eraseDups_concat]
      apply inductionHypothesis.append
      by_cases before : item ∈ items <;> simp [before]

/-- A list without repetitions has nothing but first occurrences. -/
theorem eraseDups_eq_self
    {items : List α}
    (noDuplicates : items.Nodup) :
    items.eraseDups = items := by
  induction items using List.reverseRecOn with
  | nil =>
      rfl
  | append_singleton items item inductionHypothesis =>
      obtain ⟨earlier, _, fresh⟩ := List.nodup_append.mp noDuplicates
      have notBefore : item ∉ items :=
        fun before => fresh item before item (List.mem_singleton_self item) rfl
      rw [eraseDups_concat, inductionHypothesis earlier, if_neg notBefore]

/-- The first occurrences of what passes a test are the first occurrences that pass it. -/
theorem eraseDups_filter
    (passes : α → Bool)
    (items : List α) :
    (items.filter passes).eraseDups = items.eraseDups.filter passes := by
  induction items using List.reverseRecOn with
  | nil =>
      rfl
  | append_singleton items item inductionHypothesis =>
      rw [eraseDups_concat, List.filter_append, List.filter_append]
      cases passed : passes item with
      | false =>
          by_cases before : item ∈ items <;> simp [before, passed, inductionHypothesis]
      | true =>
          have kept : item ∈ items.filter passes ↔ item ∈ items := by
            simp [passed]
          rw [List.filter_cons_of_pos passed, List.filter_nil, eraseDups_concat,
            inductionHypothesis]
          by_cases before : item ∈ items <;> simp [kept, before, passed]

/-- What an item that occurred before contributes has occurred before as well. -/
theorem eraseDups_flatMap_eraseDups
    (items : List α)
    (f : α → List β) :
    (items.eraseDups.flatMap f).eraseDups = (items.flatMap f).eraseDups := by
  induction items using List.reverseRecOn with
  | nil =>
      rfl
  | append_singleton items item inductionHypothesis =>
      rw [eraseDups_concat, List.flatMap_append, List.flatMap_append, List.flatMap_singleton,
        List.eraseDups_append, List.eraseDups_append, inductionHypothesis]
      by_cases before : item ∈ items
      · have nothing : (f item).removeAll (items.flatMap f) = [] := by
          simp only [List.removeAll, List.filter_eq_nil_iff]
          intro value member
          simpa using ⟨item, before, member⟩
        rw [if_pos before, nothing]
        rfl
      · have same :
            (f item).removeAll (items.eraseDups.flatMap f) =
              (f item).removeAll (items.flatMap f) := by
          simp [List.removeAll, List.mem_flatMap, List.mem_eraseDups]
        rw [if_neg before, List.flatMap_singleton, same]

theorem eraseDups_eraseDups (items : List α) :
    items.eraseDups.eraseDups = items.eraseDups := by
  simpa only [List.flatMap_singleton'] using
    eraseDups_flatMap_eraseDups items fun item => [item]

end FirstOccurrences

/-- Of what each item contributes only the first occurrences count. -/
theorem eraseDups_flatMap_congr
    {α β : Type}
    [BEq β]
    [LawfulBEq β]
    {f g : α → List β}
    (same : ∀ item, (f item).eraseDups = (g item).eraseDups)
    (items : List α) :
    (items.flatMap f).eraseDups = (items.flatMap g).eraseDups := by
  induction items with
  | nil =>
      rfl
  | cons item items inductionHypothesis =>
      have contributed : ∀ value, value ∈ f item ↔ value ∈ g item := by
        intro value
        rw [← List.mem_eraseDups, same, List.mem_eraseDups]
      simp only [List.flatMap_cons, List.eraseDups_append, same, List.removeAll, List.elem_eq_mem,
        contributed, eraseDups_filter, inductionHypothesis]

end MarkupQuery

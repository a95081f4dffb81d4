import MarkupQuery.Warning

namespace MarkupQuery.WarningLog

/-!
# What a log remembers

Raising a warning again changes nothing, neither what is recorded nor what was shown, and nothing
that was recorded is forgotten.
-/

variable {log : WarningLog} {warning other : Warning} {warnings : List Warning}

/-- A warning of a known key leaves the whole log as it is. -/
theorem report_of_contains (known : log.contains warning = true) :
    log.report warning = log := by
  rw [report, if_pos known]

theorem contains_report_iff :
    (log.report warning).contains other = true ↔
      log.contains other = true ∨ other.key = warning.key := by
  unfold report
  split
  · next known =>
      constructor
      · exact Or.inl
      · rintro (before | same)
        · exact before
        · rwa [contains, same]
  · simp [contains, or_comm]

theorem reportAll_cons :
    log.reportAll (warning :: warnings) = (log.report warning).reportAll warnings :=
  rfl

theorem reportAll_append (first second : List Warning) :
    log.reportAll (first ++ second) = (log.reportAll first).reportAll second :=
  List.foldl_append

/-- A log contains what it contained before and what was raised since. -/
theorem contains_reportAll_iff :
    (log.reportAll warnings).contains other = true ↔
      log.contains other = true ∨ ∃ warning ∈ warnings, other.key = warning.key := by
  induction warnings generalizing log with
  | nil =>
      simp [reportAll]
  | cons warning rest inductionHypothesis =>
      rw [reportAll_cons, inductionHypothesis, contains_report_iff]
      simp [or_assoc]

/-- Warnings that are all known leave the whole log as it is. -/
theorem reportAll_of_contains
    (known : ∀ warning ∈ warnings, log.contains warning = true) :
    log.reportAll warnings = log := by
  induction warnings with
  | nil =>
      rfl
  | cons warning rest inductionHypothesis =>
      obtain ⟨here, later⟩ := List.forall_mem_cons.mp known
      rw [reportAll_cons, report_of_contains here, inductionHypothesis later]

end MarkupQuery.WarningLog

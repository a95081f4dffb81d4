import Mathlib.Data.List.Induction
import Mathlib.Data.List.Nodup
import MarkupQuery.Cli.Run
import MarkupQuery.Proofs.Warning

namespace MarkupQuery

/-!
# Runs of warnings

Warnings are raised, asked for and switched on and off in any order. What a log remembers, and which
line it writes for a call, can be told from the calls before: a warning is known from the first
raising of its key on, and this raising is the only one that can write a line for the key. If
warnings were off at that moment no line is ever written for it.
-/

/-- One call that has to do with warnings. -/
inductive WarningCall where
  /-- Raise a warning. -/
  | report (warning : Warning)
  /-- Ask whether a warning was raised before. -/
  | ask (warning : Warning)
  /-- Switch the output on or off. -/
  | setEnabled (enabled : Bool)
  deriving Repr, DecidableEq

/-- The key of a warning: its component in brackets, and then its message. -/
def Warning.keyText (warning : Warning) : String :=
  "[" ++ warning.component ++ "] " ++ warning.message

/-- The line of a warning, in yellow and with the name of the program before the component. -/
def Warning.lineText (warning : Warning) : String :=
  "\x1b[33m[sprig " ++ warning.component ++ "] ⚠ " ++ warning.message ++ "\x1b[39m\n"

/-- Warnings are recorded by their keys. -/
theorem Warning.key_eq (warning : Warning) :
    warning.key = warning.keyText :=
  rfl

namespace WarningCall

/-- The key that a call raises. Asking for a warning does not raise it. -/
def raises? : WarningCall → Option String
  | .report warning => some warning.keyText
  | _ => none

/-- What a call switches the output to. -/
def switchesTo? : WarningCall → Option Bool
  | .setEnabled enabled => some enabled
  | _ => none

/-- The keys that calls raise, in order and as often as they do. -/
def raisedKeys (calls : List WarningCall) : List String :=
  calls.filterMap raises?

/-- Whether output is on after calls: as it was switched last, or as it was at the start. -/
def enabledAfter
    (start : Bool)
    (calls : List WarningCall) :
    Bool :=
  (calls.filterMap switchesTo?).getLast?.getD start

/-- A key was raised if some warning with it was. -/
theorem mem_raisedKeys_iff
    {key : String}
    {calls : List WarningCall} :
    key ∈ raisedKeys calls ↔ ∃ raised : Warning, .report raised ∈ calls ∧ raised.keyText = key := by
  rw [raisedKeys, List.mem_filterMap]
  constructor
  · rintro ⟨call, member, raises⟩
    cases call with
    | report raised =>
        exact ⟨raised, member, Option.some.inj raises⟩
    | ask asked =>
        cases raises
    | setEnabled enabled =>
        cases raises
  · rintro ⟨raised, member, same⟩
    exact ⟨.report raised, member, congrArg some same⟩

end WarningCall

namespace WarningLog

open WarningCall

/-- The log after a call. -/
def after (log : WarningLog) : WarningCall → WarningLog
  | .report warning => log.report warning
  | .ask _ => log
  | .setEnabled enabled => log.setEnabled enabled

/-- The log after calls in turn. -/
def afterAll (log : WarningLog) (calls : List WarningCall) : WarningLog :=
  calls.foldl after log

/-- The log that calls in turn make of an empty one, with the output switched on or off before. -/
def ofCalls (start : Bool) (calls : List WarningCall) : WarningLog :=
  (empty.setEnabled start).afterAll calls

/-- The keys for which a line was written, in order. -/
def shownKeys (log : WarningLog) : List String :=
  log.shown.map Warning.keyText

/-- A warning is known and no line was written for its key. -/
structure Silenced (log : WarningLog) (warning : Warning) : Prop where
  known :
    log.contains warning = true
  unwritten :
    warning.keyText ∉ log.shownKeys

section OneCall

variable {log : WarningLog} {warning : Warning} {call : WarningCall}

theorem ofCalls_append
    (start : Bool)
    (earlier later : List WarningCall) :
    ofCalls start (earlier ++ later) = (ofCalls start earlier).afterAll later :=
  List.foldl_append

theorem ofCalls_concat
    (start : Bool)
    (calls : List WarningCall)
    (call : WarningCall) :
    ofCalls start (calls ++ [call]) = (ofCalls start calls).after call :=
  ofCalls_append start calls [call]

/-- Raising a warning does not switch the output. -/
theorem enabled_report :
    (log.report warning).enabled = log.enabled := by
  unfold report
  split <;> rfl

/-- What raising a warning shows: the warning, if it is new and output is on. -/
theorem shown_report :
    (log.report warning).shown =
      log.shown ++
        if log.contains warning = false ∧ log.enabled = true then [warning] else [] := by
  unfold report
  cases known : log.contains warning with
  | true =>
      simp
  | false =>
      cases log.enabled <;> simp

/-- What is known stays known. -/
theorem contains_after (known : log.contains warning = true) :
    (log.after call).contains warning = true := by
  cases call with
  | report raised =>
      exact contains_report_iff.mpr (Or.inl known)
  | ask asked =>
      exact known
  | setEnabled enabled =>
      exact known

/-- Once it is known, a warning without a line gets none, whatever call follows. -/
theorem Silenced.after (silenced : log.Silenced warning) :
    (log.after call).Silenced warning where
  known := contains_after silenced.known
  unwritten := by
    cases call with
    | report raised =>
        intro written
        rw [WarningLog.after, shownKeys, shown_report, List.map_append, List.mem_append] at written
        rcases written with before | now
        · exact silenced.unwritten before
        · -- A line for the key now would take a warning of this key that is not known yet.
          split at now
          · next isNew =>
              have same : warning.keyText = raised.keyText := by
                simpa using now
              have known := silenced.known
              rw [contains, Warning.key_eq, same] at known
              exact absurd (known.symm.trans isNew.1) (by decide)
          · cases now
    | ask asked =>
        exact silenced.unwritten
    | setEnabled enabled =>
        exact silenced.unwritten

/-- Once it is known, a warning without a line gets none, whatever calls follow. -/
theorem Silenced.afterAll
    (silenced : log.Silenced warning)
    (calls : List WarningCall) :
    (log.afterAll calls).Silenced warning := by
  induction calls generalizing log with
  | nil =>
      exact silenced
  | cons first rest inductionHypothesis =>
      exact inductionHypothesis silenced.after

end OneCall

/-- What a log has of a run of calls, which began with the output switched on or off. -/
structure Follows
    (log : WarningLog)
    (start : Bool)
    (calls : List WarningCall) : Prop where
  contains_iff :
    ∀ warning, log.contains warning = true ↔ warning.keyText ∈ raisedKeys calls
  enabled :
    log.enabled = enabledAfter start calls
  shown_subset :
    ∀ key ∈ log.shownKeys, key ∈ raisedKeys calls
  nodup :
    log.shownKeys.Nodup

section Runs

variable {log : WarningLog} {start : Bool} {calls : List WarningCall}

/-- A new log has nothing of any call. -/
theorem follows_start (start : Bool) :
    (ofCalls start []).Follows start [] where
  contains_iff := by
    intro warning
    simp [ofCalls, afterAll, contains, setEnabled, empty, raisedKeys]
  enabled := rfl
  shown_subset := by
    intro key member
    cases member
  nodup := List.nodup_nil

namespace Follows

theorem not_contains_iff
    (follows : log.Follows start calls)
    (warning : Warning) :
    log.contains warning = false ↔ warning.keyText ∉ raisedKeys calls := by
  rw [← follows.contains_iff, Bool.not_eq_true]

/-- Raising a warning writes its line if the key is new and output is on, and else nothing. -/
theorem shown_report
    (follows : log.Follows start calls)
    (warning : Warning) :
    (log.report warning).shown =
      log.shown ++
        if warning.keyText ∉ raisedKeys calls ∧ enabledAfter start calls = true then [warning]
        else [] := by
  rw [WarningLog.shown_report]
  simp only [follows.not_contains_iff, follows.enabled]

/-- Raising a warning is followed up. -/
theorem report
    (follows : log.Follows start calls)
    (warning : Warning) :
    (log.report warning).Follows start (calls ++ [.report warning]) where
  contains_iff := by
    intro other
    rw [contains_report_iff, follows.contains_iff, Warning.key_eq, Warning.key_eq]
    simp [raisedKeys, raises?]
  enabled := by
    rw [enabled_report, follows.enabled]
    simp [enabledAfter, switchesTo?]
  shown_subset := by
    intro key member
    rw [shownKeys, follows.shown_report, List.map_append, List.mem_append] at member
    rw [raisedKeys, List.filterMap_append, List.mem_append]
    rcases member with before | now
    · exact Or.inl (follows.shown_subset key before)
    · right
      split at now
      · simpa [raises?] using now
      · cases now
  nodup := by
    rw [shownKeys, follows.shown_report]
    split
    · next isNew =>
        rw [List.map_append, List.map_singleton, ← List.concat_eq_append]
        refine follows.nodup.concat fun before => ?_
        exact isNew.1 (follows.shown_subset _ before)
    · rw [List.append_nil]
      exact follows.nodup

theorem after
    (follows : log.Follows start calls)
    (call : WarningCall) :
    (log.after call).Follows start (calls ++ [call]) := by
  cases call with
  | report warning =>
      exact follows.report warning
  | ask warning =>
      have keys : raisedKeys (calls ++ [.ask warning]) = raisedKeys calls := by
        simp [raisedKeys, raises?]
      exact {
        contains_iff := keys ▸ follows.contains_iff
        enabled := by
          rw [WarningLog.after, follows.enabled]
          simp [enabledAfter, switchesTo?]
        shown_subset := keys ▸ follows.shown_subset
        nodup := follows.nodup
      }
  | setEnabled enabled =>
      have keys : raisedKeys (calls ++ [.setEnabled enabled]) = raisedKeys calls := by
        simp [raisedKeys, raises?]
      exact {
        contains_iff := keys ▸ follows.contains_iff
        enabled := by
          simp [WarningLog.after, setEnabled, enabledAfter, switchesTo?]
        shown_subset := keys ▸ follows.shown_subset
        nodup := follows.nodup
      }

/-- Calls are followed up one by one. -/
theorem ofCalls
    (start : Bool)
    (calls : List WarningCall) :
    (ofCalls start calls).Follows start calls := by
  induction calls using List.reverseRecOn with
  | nil =>
      exact follows_start start
  | append_singleton calls call inductionHypothesis =>
      rw [ofCalls_concat]
      exact inductionHypothesis.after call

end Follows

/-- A key that is raised first while output is off is silenced by that. -/
theorem Follows.silenced_report
    (follows : log.Follows start calls)
    {warning : Warning}
    (isNew : warning.keyText ∉ raisedKeys calls)
    (off : enabledAfter start calls = false) :
    (log.report warning).Silenced warning where
  known := contains_report_iff.mpr (Or.inr rfl)
  unwritten := by
    have nothing : ¬ (warning.keyText ∉ raisedKeys calls ∧ enabledAfter start calls = true) := by
      simp [off]
    rw [shownKeys, follows.shown_report, if_neg nothing, List.append_nil]
    exact fun written => isNew (follows.shown_subset _ written)

end Runs

/-- What is written of a log are the lines of the warnings that were shown. -/
theorem warningLines_eq (log : WarningLog) :
    Cli.warningLines log = String.join (log.shown.map Warning.lineText) :=
  rfl

/--
After any calls a log that began empty knows a warning if and only if its key was raised. Raising a
warning next writes its line if and only if its key was not raised before and output is on; no other
call writes anything. What is written are the lines of the warnings shown: no key has two of them,
and a key that was first raised while output was off has none, whatever followed.
-/
theorem ofCalls_reports_once
    (start : Bool)
    (calls : List WarningCall) :
    (∀ warning : Warning,
        (ofCalls start calls).contains warning = true ↔
          ∃ raised : Warning, .report raised ∈ calls ∧ raised.keyText = warning.keyText) ∧
      (∀ warning : Warning,
        Cli.warningLines (ofCalls start (calls ++ [.report warning])) =
          Cli.warningLines (ofCalls start calls) ++
            if warning.keyText ∉ raisedKeys calls ∧ enabledAfter start calls = true then
              warning.lineText
            else
              "") ∧
      (∀ call : WarningCall,
        call.raises? = none →
          Cli.warningLines (ofCalls start (calls ++ [call])) =
            Cli.warningLines (ofCalls start calls)) ∧
      Cli.warningLines (ofCalls start calls) =
        String.join ((ofCalls start calls).shown.map Warning.lineText) ∧
      (ofCalls start calls).shownKeys.Nodup ∧
      ∀ (earlier later : List WarningCall) (warning : Warning),
        calls = earlier ++ .report warning :: later →
          warning.keyText ∉ raisedKeys earlier →
            enabledAfter start earlier = false →
              warning.keyText ∉ (ofCalls start calls).shownKeys := by
  have follows := Follows.ofCalls start calls
  refine ⟨?_, ?_, ?_, warningLines_eq _, follows.nodup, ?_⟩
  · intro warning
    rw [follows.contains_iff, mem_raisedKeys_iff]
  · intro warning
    rw [ofCalls_concat, after, warningLines_eq, follows.shown_report, List.map_append,
      String.join_append, warningLines_eq]
    split
    · simp
    · simp
  · intro call quiet
    rw [ofCalls_concat]
    cases call with
    | report raised =>
        cases quiet
    | ask asked =>
        rfl
    | setEnabled enabled =>
        rfl
  · rintro earlier later warning rfl isNew off
    have silenced := (Follows.ofCalls start earlier).silenced_report isNew off
    rw [ofCalls_append]
    exact (silenced.afterAll later).unwritten

/-- A key that two different warnings have is raised in silence, and again when output is on. -/
theorem ofCalls_reports_once_silenced :
    let first : Warning := { component := "Import", message := "a] b" }
    let second : Warning := { component := "Import] a", message := "b" }
    let calls : List WarningCall := [
      .setEnabled false,
      .report first,
      .setEnabled true,
      .report second,
      .ask second,
      .report first
    ]
    first ≠ second ∧
      first.keyText ∉ raisedKeys [.setEnabled false] ∧
      enabledAfter true [.setEnabled false] = false ∧
      (∃ raised : Warning, .report raised ∈ calls ∧ raised.keyText = second.keyText) ∧
      (ofCalls true calls).contains second = true ∧
      first.keyText ∉ (ofCalls true calls).shownKeys := by
  intro first second calls
  have isNew : first.keyText ∉ raisedKeys [.setEnabled false] := by
    decide
  have off : enabledAfter true [.setEnabled false] = false := by
    decide
  have raised : ∃ raised : Warning, .report raised ∈ calls ∧ raised.keyText = second.keyText :=
    ⟨first, by decide, by decide⟩
  obtain ⟨known, _, _, _, _, silenced⟩ := ofCalls_reports_once true calls
  exact ⟨by decide, isNew, off, raised, (known second).mpr raised,
    silenced [.setEnabled false] _ first rfl isNew off⟩

end WarningLog

end MarkupQuery

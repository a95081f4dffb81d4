namespace MarkupQuery

/-!
# Warnings, each reported once

A warning names the component that raised it. Two warnings are the same when they read the same,
and a warning is shown only the first time it is raised. Raising it is recorded whether or not
warnings are shown at that moment, so one that was raised in silence is never shown later.
-/

/-- A component and what it has to say. -/
structure Warning where
  component : String
  message : String
  deriving Repr, DecidableEq

/-- The text by which warnings are told apart. -/
def Warning.key (warning : Warning) : String :=
  "[" ++ warning.component ++ "] " ++ warning.message

/-- The keys raised so far, whether warnings are shown, and the warnings shown in order. -/
structure WarningLog where
  recorded : List String := []
  enabled : Bool := true
  shown : List Warning := []
  deriving Repr, DecidableEq

namespace WarningLog

/-- A log without a warning, with showing switched on. -/
def empty : WarningLog := {}

/-- Whether a warning of the same key was raised before. -/
def contains (log : WarningLog) (warning : Warning) : Bool :=
  log.recorded.contains warning.key

/-- Raise a warning: the first time it is recorded, and shown if that is switched on. -/
def report (log : WarningLog) (warning : Warning) : WarningLog :=
  if log.contains warning then
    log
  else
    { log with
      recorded := warning.key :: log.recorded
      shown := if log.enabled then log.shown ++ [warning] else log.shown }

/-- Raise several warnings in order. -/
def reportAll (log : WarningLog) (warnings : List Warning) : WarningLog :=
  warnings.foldl report log

/-- Switch showing on or off; what was recorded stays. -/
def setEnabled (log : WarningLog) (enabled : Bool) : WarningLog :=
  { log with enabled := enabled }

end WarningLog

end MarkupQuery

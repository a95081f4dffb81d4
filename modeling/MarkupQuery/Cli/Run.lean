import MarkupQuery.Cli.Arguments
import MarkupQuery.Html.Import
import MarkupQuery.Report.Plan
import MarkupQuery.Selector.Engine

namespace MarkupQuery.Cli

/-!
# Running a command

A command reads its markup, then its selector, and writes what was found to the standard output.
If either cannot be read nothing is written there, and the reasons go to the standard error output
after the warnings. Warnings are written once each, in the order in which they come up.
-/

open MarkupQuery.Selector

/-- Why markup cannot be read. -/
inductive ReadError where
  | notFound
  | isDirectory
  | malformedText
  | other (reason : String)
  deriving Repr, DecidableEq

/-- What is said about markup that cannot be read. -/
def ReadError.message : ReadError → String
  | .notFound => "No such file or directory (os error 2)"
  | .isDirectory => "Is a directory (os error 21)"
  | .malformedText => "stream did not contain valid UTF-8"
  | .other reason => reason

/-- Why a command fails. -/
inductive CommandError where
  | file (path : String) (cause : ReadError)
  | standardInput (cause : ReadError)
  | selector (cause : SelectorError)
  deriving Repr, DecidableEq

/-- What is said about a command that fails: what failed, then why, down to the innermost reason. -/
def CommandError.reasons : CommandError → List String
  | .file path cause => ["failed to read " ++ path, cause.message]
  | .standardInput cause => ["failed to read HTML from stdin", cause.message]
  | .selector cause => cause.messages

/-- What a command can read: files by their path, and the standard input. -/
structure Surroundings where
  file : String → Except ReadError ByteArray
  standardInput : ByteArray := .empty

/-- What a command leaves behind. -/
structure Outcome where
  exitCode : Nat
  output : String := ""
  errorOutput : String := ""
  deriving Repr, DecidableEq

/-- The name and version of the program. -/
def versionText : String := "sprig 0.1.0\n"

/-- What is said about a command line that asks for nothing that can be done. -/
def usageText : String :=
  "Usage: sprig [--quiet] select SELECTOR [FILE] [OPTIONS]\n" ++
    "       sprig [--quiet] plan SELECTOR [--json]\n"

/-- A warning as it is written. -/
def warningText (warning : Warning) : String :=
  "\x1b[33m[sprig " ++ warning.component ++ "] ⚠ " ++ warning.message ++ "\x1b[39m\n"

/-- An error as it is written, its reasons joined by colons. -/
def errorText (error : CommandError) : String :=
  "\x1b[1m\x1b[31merror:\x1b[39m\x1b[0m " ++ ": ".intercalate error.reasons ++ "\n"

/-- The warnings that were shown, as they are written one behind the other. -/
def warningLines (log : WarningLog) : String :=
  String.join (log.shown.map warningText)

/-- The outcome of a command that succeeds. -/
def succeed (log : WarningLog) (output : String) : Outcome :=
  { exitCode := 0, output := output, errorOutput := warningLines log }

/-- The outcome of a command that fails. -/
def fail (log : WarningLog) (error : CommandError) : Outcome :=
  { exitCode := 1, errorOutput := warningLines log ++ errorText error }

/-- Bytes as text, if they are well-formed. -/
def decodeText (bytes : ByteArray) : Except ReadError String :=
  match String.fromUTF8? bytes with
  | some text => .ok text
  | none => .error .malformedText

/-- The markup of a source, or why it cannot be read. -/
def readSource (surroundings : Surroundings) : Source → Except CommandError String
  | .inline markup => .ok markup
  | .file path => ((surroundings.file path).bind decodeText).mapError (.file path)
  | .standardInput => (decodeText surroundings.standardInput).mapError .standardInput

/-- An empty log that shows warnings unless it is to be quiet. -/
def logFor (quiet : Bool) : WarningLog :=
  WarningLog.empty.setEnabled (!quiet)

/-- The engine that answers a request. -/
def engineFor (request : SelectRequest) : Engine :=
  match request.capacity with
  | none => .unbounded
  | some capacity => .bounded capacity

/-- The markup of a request as a tree. -/
def importFor (request : SelectRequest) (markup : String) : Html.Import :=
  if request.fragment then Html.importFragment markup else Html.importPage markup

/-- All nodes that a request asks for, or the first one. -/
def replyFor (request : SelectRequest) (tree : Tree) : Engine.Reply (List NodeId) :=
  if request.firstOnly then
    let reply := (engineFor request).selectFirst tree Tree.root request.selector
    {
      result := reply.result.map Option.toList
      warnings := reply.warnings
      engine := reply.engine
    }
  else
    (engineFor request).select tree Tree.root request.selector

/-- Carry out a `select` command. -/
def runSelect (quiet : Bool) (request : SelectRequest) (surroundings : Surroundings) : Outcome :=
  match readSource surroundings request.source with
  | .error error => fail (logFor quiet) error
  | .ok markup =>
      let imported := importFor request markup
      let reply := replyFor request imported.tree
      let log := (logFor quiet).reportAll (imported.warnings ++ reply.warnings)
      match reply.result with
      | .error error => fail log (.selector error)
      | .ok ids => succeed log (Report.matchesText request.format imported.tree ids)

/-- Carry out a `plan` command. -/
def runPlan (quiet : Bool) (request : PlanRequest) : Outcome :=
  let reply := Engine.unbounded.plan request.selector
  let log := (logFor quiet).reportAll reply.warnings
  match reply.result with
  | .error error => fail log (.selector error)
  | .ok plan =>
      succeed log (if request.json then Report.planJson plan else Report.planText plan)

/-- Carry out a request. -/
def Request.run (request : Request) (surroundings : Surroundings) : Outcome :=
  match request with
  | .version => { exitCode := 0, output := versionText }
  | .select quiet request => runSelect quiet request surroundings
  | .plan quiet request => runPlan quiet request

/-- Carry out what a command line asks for. -/
def run (arguments : List String) (surroundings : Surroundings) : Outcome :=
  match request? arguments with
  | none => { exitCode := 2, errorOutput := usageText }
  | some request => request.run surroundings

end MarkupQuery.Cli

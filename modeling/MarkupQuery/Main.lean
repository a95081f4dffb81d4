import MarkupQuery.Cli.Run

/-!
# The program

Everything is decided by `MarkupQuery.Cli.run`; what is left is to fetch the bytes that a request
needs and to write the outcome.
-/

namespace MarkupQuery.Cli

/-- The bytes of a file, or why they cannot be had. -/
def fetchFile (path : String) : IO (Except ReadError ByteArray) := do
  try
    return .ok (← IO.FS.readBinFile path)
  catch
    | .noFileOrDirectory .. => return .error .notFound
    | .inappropriateType .. => return .error .isDirectory
    | error => return .error (.other (toString error))

/-- Fetch the bytes that a command line needs, and no others. -/
def surroundingsFor (arguments : List String) : IO Surroundings := do
  match request? arguments with
  | some (.select _ { source := .file path, .. }) =>
      let content ← fetchFile path
      return { file := fun _ => content }
  | some (.select _ { source := .standardInput, .. }) =>
      let content ← (← IO.getStdin).readBinToEnd
      return { file := fun _ => .error .notFound, standardInput := content }
  | _ => return { file := fun _ => .error .notFound }

end MarkupQuery.Cli

/-- Carry out what the command line asks for. -/
def main (arguments : List String) : IO UInt32 := do
  let surroundings ← MarkupQuery.Cli.surroundingsFor arguments
  let outcome := MarkupQuery.Cli.run arguments surroundings
  IO.print outcome.output
  IO.eprint outcome.errorOutput
  return outcome.exitCode.toUInt32

import DocLint.CommandLine.Lint
/-!
# The command line

Connects the linting program to files and streams.
-/

namespace DocLint.Main

open CommandLine

/-- What is wrong with a file that cannot be read. -/
def fileErrorOf : IO.Error → Lint.FileError
  | .inappropriateType .. => .isDirectory
  | .noFileOrDirectory .. => .notFound
  | _ => .notDirectory

/-- The text of a file. -/
def readFile (name : String) : IO (Except Lint.FileError String) := do
  try
    let text ← IO.FS.readFile name
    return .ok (String.ofList (Lint.unifyLineEnds text.toList))
  catch e => return .error (fileErrorOf e)

/-- The text of the file that is asked for, or of standard input. -/
def readSource (file : String) : IO (Except Lint.FileError String) := do
  if file = "-" then return .ok (← (← IO.getStdin).readToEnd)
  readFile file

/-- Write what a program leaves behind, and turn its end into a status. -/
def leave (output : Output) : IO UInt32 := do
  IO.print output.written
  IO.eprint output.complaints
  match output.ending with
  | .finished status | .stopped status => return status.toUInt32
  | .failed label message =>
    IO.eprintln (label ++ ": " ++ message)
    return 1

end DocLint.Main

/-- The linting program. -/
def main (arguments : List String) : IO UInt32 := do
  match DocLint.CommandLine.Lint.request arguments with
  | .error output => DocLint.Main.leave output
  | .ok r => DocLint.Main.leave (DocLint.CommandLine.Lint.run r (← DocLint.Main.readSource r.file))

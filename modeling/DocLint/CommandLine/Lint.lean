import DocLint.Catalogue
import DocLint.CommandLine.Arguments
import DocLint.CommandLine.Output
import DocLint.Json.Read
import DocLint.Json.Write
import DocLint.Lint.Run
/-!
# The linting program

Reads a document from a file or from standard input, checks it against the
built-in rules, and writes the findings, one a line or as JSON, or else the
document with the findings highlighted. Diagnostics go where complaints go. The
status tells whether there are findings, or that there was no document to read.
-/

namespace DocLint.CommandLine.Lint

/-- What the program is asked to do. -/
structure Request where
  /-- A file name, or a dash for standard input. -/
  file : String
  json : Bool
  highlight : Bool
  debug : Bool
  deriving DecidableEq, Repr

/-- The arguments of the program. -/
def usage : Usage where
  switches := [⟨["--json"], .nothing⟩, ⟨["--highlight"], .nothing⟩, ⟨["--debug"], .nothing⟩]
  operands := ["file"]

/-- How the program is called. -/
def usageText : String := "usage: treelint [-h] [--json] [--highlight] [--debug] file\n"

/-- What the program does, at length. -/
def helpText : String := usageText ++ textOfLines [
  "",
  "Lint a markdown-derived document tree stored as JSON",
  "",
  "positional arguments:",
  "  file         JSON file holding the document tree, or - for stdin",
  "",
  "options:",
  "  -h, --help   show this help message and exit",
  "  --json       Print lint records as a JSON array",
  "  --highlight  Print the tree with flagged nodes wrapped in lint nodes instead",
  "               of the records",
  "  --debug      Trace every visited node"]

/-- Read the arguments of the program. -/
def request (arguments : List String) : Except Output Request :=
  match usage.read arguments with
  | .ok given => .ok {
      file := given.operand "file"
      json := given.has "--json"
      highlight := given.has "--highlight"
      debug := given.has "--debug" }
  | .error .help => .error { ending := .stopped 0, written := helpText }
  | .error (.mistake message) => .error {
      ending := .stopped 2
      complaints := usageText ++ "treelint: error: " ++ message ++ "\n" }

/-- Why a file cannot be read. -/
inductive FileError
  | notFound
  | notDirectory
  | isDirectory
  | nameTooLong
  deriving DecidableEq, Repr

/-- The words for what is wrong with a file. -/
def FileError.message (name : String) (e : FileError) : String :=
  (match e with
    | notFound => "[Errno 2] No such file or directory: "
    | notDirectory => "[Errno 20] Not a directory: "
    | isDirectory => "[Errno 21] Is a directory: "
    | nameTooLong => "[Errno 36] File name too long: ") ++ Text.quoted name

/-- The end of the program where there is no document to read. -/
def unreadable (file message : String) : Output where
  ending := .finished 2
  complaints := "treelint: can't read " ++ file ++ ": " ++ message ++ "\n"

/-- What is written about the findings. -/
def report (r : Request) (findings : List Finding) (document : Tree) :
    Except Fault (List String) :=
  if r.highlight then return [Json.writeIndented .unicode document]
  else if r.json then
    return [Json.writeIndented .unicode (.list (findings.map Finding.toTree))]
  else findings.mapM Finding.text

/-- Check a document. -/
def check (r : Request) (document : Tree) : Output :=
  let (root, store) := (Store.add document).run .empty
  let options : DocLint.Lint.Options :=
    { highlight := r.highlight, listen := true, trace := r.debug }
  let (outcome, session) :=
    (DocLint.Lint.run options Catalogue.defaultRules root).run ⟨store, none⟩
  let trace := textOfLines outcome.trace
  let lines := do
    let findings ← outcome.findings
    return (findings, ← report r findings (session.store.tree root))
  match lines with
  | .error fault => { ending := .ofFault fault, complaints := trace }
  | .ok (findings, lines) => {
      ending := .finished (if findings.isEmpty then 0 else 1)
      written := textOfLines lines
      complaints := trace ++
        textOfLines (outcome.diagnostics.map fun d => "treelint: " ++ d.text) }

/-- Do what is asked with the text of the file or of standard input. -/
def run (r : Request) (source : Except FileError String) : Output :=
  match source with
  | .error e => unreadable r.file (e.message r.file)
  | .ok text =>
    match Json.read text with
    | .ok document => check r document
    | .error e =>
      match e.cause with
      | .tooManyDigits _ => { ending := .failed "ValueError" e.message }
      | _ => unreadable r.file e.message

/-- The text of a file with all line ends written alike. -/
def unifyLineEnds : List Char → List Char
  | '\r' :: '\n' :: rest => '\n' :: unifyLineEnds rest
  | '\r' :: rest => '\n' :: unifyLineEnds rest
  | c :: rest => c :: unifyLineEnds rest
  | [] => []

end DocLint.CommandLine.Lint

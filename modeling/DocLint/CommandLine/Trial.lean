import DocLint.Check
import DocLint.CommandLine.Arguments
import DocLint.CommandLine.Output
import DocLint.Generate.Document
import DocLint.Generate.Selector
import DocLint.Json.Write
/-!
# The trial program

Makes documents and selectors by chance and checks each of them, or just shows
some. No time passes while it runs, so every trial is in time.
-/

namespace DocLint.CommandLine.Trial

open Generate

/-- What the program is asked to do. -/
structure Request where
  trials : Int
  seed : Option Int
  verbose : Bool
  /-- How many samples to show instead. -/
  samples : Option Int
  deriving DecidableEq, Repr

/-- The arguments of the program. -/
def usage : Usage where
  switches := [⟨["--num-tests", "-n"], .number⟩, ⟨["--seed", "-s"], .number⟩,
    ⟨["--verbose", "-v"], .nothing⟩, ⟨["--save-failures"], .nothing⟩, ⟨["--sample"], .number⟩]
  operands := []

/-- How the program is called. -/
def usageText : String := textOfLines [
  "usage: fuzz.py [-h] [--num-tests NUM_TESTS] [--seed SEED] [--verbose]",
  "               [--save-failures] [--sample N]"]

/-- What the program does, at length. -/
def helpText : String := usageText ++ textOfLines [
  "",
  "Fuzz treelint with random trees and selectors",
  "",
  "options:",
  "  -h, --help            show this help message and exit",
  "  --num-tests NUM_TESTS, -n NUM_TESTS",
  "                        Number of test cases to generate (default: 1000)",
  "  --seed SEED, -s SEED  Random seed for reproducibility",
  "  --verbose, -v         Verbose output",
  "  --save-failures       Save failures to a file",
  "  --sample N            Just print N sample trees and selectors (no linting)"]

/-- Read the arguments of the program. -/
def request (arguments : List String) : Except Output Request :=
  match usage.read arguments with
  | .ok given => .ok {
      trials := (given.number? "--num-tests").getD 1000
      seed := given.number? "--seed"
      verbose := given.has "--verbose"
      samples := (given.number? "--sample").filter (· != 0) }
  | .error .help => .error { ending := .stopped 0, written := helpText }
  | .error (.mistake message) => .error {
      ending := .stopped 2
      complaints := usageText ++ "fuzz.py: error: " ++ message ++ "\n" }

/-- A document and a selector that did not pass. -/
structure Failure where
  number : Nat
  document : Tree
  selector : String
  fault : Fault

/-- What trials have come to. -/
structure Tally where
  passed : Nat := 0
  /-- The failures, the last one in front. -/
  failures : List Failure := []
  /-- What was written on the way, the last line in front. -/
  lines : List String := []

variable {σ : Type} [Source σ] [CharacterNames]

/-- Check a selector and a document together. -/
def attempt (document : Tree) (selector : String) : Except Fault Unit := do
  let (root, store) := (Store.add document).run .empty
  Check.selector selector store root
  Check.document store root

/-- Make a document and a selector, and check them. -/
def trial (r : Request) (number : Nat) (t : Tally) : Gen σ Tally := do
  let document ← Generate.document
  let selector ← anySelector
  let t := if r.verbose && number % 100 == 0 then
      { t with lines :=
        ("  Test " ++ toString number ++ "/" ++ toString r.trials ++ "...") :: t.lines }
    else t
  match attempt document selector with
  | .ok _ => return { t with passed := t.passed + 1 }
  | .error fault =>
    let t := if r.verbose then
        { t with
          lines := ("  CRASH: Test " ++ toString number ++ ": " ++ fault.message) :: t.lines }
      else t
    return { t with failures := ⟨number, document, selector, fault⟩ :: t.failures }

/-- Run the trials from `number` on, as many as `count`. -/
def trialsFrom (r : Request) : (count number : Nat) → Tally → Gen σ Tally
  | 0, _, t => return t
  | count + 1, number, t => do trialsFrom r count (number + 1) (← trial r number t)

/-- A line across the page. -/
def rule : String := "".pushn '=' 60

/-- What is written about a failure. -/
def describe (f : Failure) : List String :=
  ["", "Test #" ++ toString f.number ++ ":",
    "  Selector: " ++ Text.quoted f.selector,
    "  Tree: " ++ String.ofList ((Json.write .ascii f.document).toList.take 200) ++ "...",
    "  Error: " ++ f.fault.label ++ ": " ++ f.fault.message]

/-- What is written about all failures. -/
def describeAll (failures : List Failure) : List String :=
  if failures.isEmpty then []
  else
    ["", rule, "CRASH DETAILS:", rule] ++ (failures.take 10).flatMap describe ++
      if 10 < failures.length then
        ["", "... and " ++ toString (failures.length - 10) ++ " more crashes"]
      else []

/-- What is written when the trials are over. -/
def summary (r : Request) (t : Tally) : List String :=
  ["", rule, "FUZZING RESULTS: treelint", rule,
    "Total tests:    " ++ toString r.trials,
    "Successes:      " ++ toString t.passed,
    "Crashes:        " ++ toString t.failures.length,
    "Hangs (>5s):    0",
    "Total time:     0.00s"] ++ describeAll t.failures.reverse

/-- Run the trials that are asked for. -/
def runTrials (r : Request) : Gen σ Output := do
  let t ← trialsFrom r r.trials.toNat 0 {}
  let head := "Fuzzing treelint with " ++ toString r.trials ++ " test cases..."
  return {
    ending := .stopped (if t.failures.isEmpty then 0 else 1)
    written := textOfLines (head :: t.lines.reverse ++ summary r t) }

/-- What is written for a sample. -/
def sample (number : Nat) : Gen σ (List String) := do
  let selector ← anySelector
  let document ← Generate.document
  return ["=== Sample " ++ toString (number + 1) ++ " ===", selector,
    Json.writeIndented .ascii document, ""]

/-- What is written for the samples from `number` on, as many as `count`. -/
def samplesFrom : (count number : Nat) → Gen σ (List String)
  | 0, _ => return []
  | count + 1, number => do
    let lines ← sample number
    return lines ++ (← samplesFrom count (number + 1))

/-- Do what is asked. -/
def run (r : Request) : Gen σ Output := do
  match r.samples with
  | none => runTrials r
  | some count =>
    return { ending := .finished 0, written := textOfLines (← samplesFrom count.toNat 0) }

/-- The source that a request starts with. -/
def source (r : Request) : Seeded := .ofInt (r.seed.getD 0)

/-- The whole program. -/
def program (arguments : List String) : Output :=
  match request arguments with
  | .error output => output
  | .ok r => ((run r).run (source r)).1

end DocLint.CommandLine.Trial

import DocLint.Regex
import DocLint.Text.Words
import DocLint.Fault
/-!
# Patterns of rules

A rule may look for a **pattern** in the text of the nodes it selects: a fixed
text, or a regular expression, which is written between slashes and may be
followed by the flag `i`. Without a pattern the whole text is meant. The answer
is a `TextMatch`, the same for all three.
-/

namespace DocLint

/-- What a rule looks for. -/
inductive Pattern
  | fixed (text : String)
  | regex (regex : Regex)

namespace Pattern

/-- The parts of an expression between slashes: the text up to the last slash,
and the text behind it. `cs` is what follows the opening slash. -/
def splitAtLastSlash (cs : List Char) : Option (List Char × List Char) :=
  match cs with
  | [] => none
  | c :: rest =>
    match splitAtLastSlash rest with
    | some (body, flags) => some (c :: body, flags)
    | none => if c = '/' then some ([], rest) else none

variable [CharacterNames]

/-- Read a pattern that is written between slashes, without the opening one. -/
def ofSlashed (pattern : String) (cs : List Char) : Except Fault Pattern := do
  match splitAtLastSlash cs with
  | none => throw (.rule (.unterminatedPattern pattern))
  | some (body, flags) =>
    let body := String.ofList body
    let flags := String.ofList flags
    if flags != "" && flags != "i" then throw (.rule (.unsupportedFlags flags pattern))
    match Regex.compile body (flags == "i") with
    | .ok compiled => return .regex compiled
    | .error (.malformed problem position) =>
      throw (.rule (.invalidPattern pattern body (.malformed problem position)))
    | .error limit => throw (.regexLimit limit)

/-- Read a pattern. -/
def ofText (pattern : String) : Except Fault Pattern :=
  match pattern.toList with
  | '/' :: rest => ofSlashed pattern rest
  | _ => return .fixed pattern

/-- The pattern that a value describes; an empty value describes none. -/
def ofTree? (t : Tree) : Except Fault (Option Pattern) :=
  if t.isEmpty then return none
  else
    match t with
    | .str s => do return some (← ofText s)
    | t => throw (.noOperation t.kind "startswith")

end Pattern

/-- A place in a text where a pattern was found. The places of groups are known
for regular expressions only. -/
structure TextMatch where
  /-- The text that was searched. -/
  text : String
  start : Int
  stop : Int
  groups : List (Option Regex.Span)
  deriving DecidableEq, Repr

namespace TextMatch

/-- The text of the match. -/
def whole (m : TextMatch) : String := Text.slice m.text m.start m.stop

/-- The text of a group, `none` if it took no part; group 0 is the whole
match. -/
def group (m : TextMatch) (index : Int) : Except Fault (Option String) :=
  if index = 0 then return some m.whole
  else if index < 0 then throw (.range .group)
  else
    match m.groups[index.toNat - 1]? with
    | none => throw (.range .group)
    | some span => return span.map fun (first, last) => Text.slice m.text first last

/-- The text of a match in messages. -/
def quoted (m : TextMatch) : String :=
  "<PatternMatch span=(" ++ toString m.start ++ ", " ++ toString m.stop ++ "), match=" ++
    Text.quoted m.whole ++ ">"

end TextMatch

/-- Look for a pattern in a text; the leftmost place counts. -/
def Pattern.search? (pattern : Option Pattern) (text : String) : Option TextMatch :=
  match pattern with
  | none => some ⟨text, 0, text.length, []⟩
  | some (.fixed needle) =>
    (Text.find? needle text).map fun (start : Nat) =>
      ⟨text, start, start + needle.length, []⟩
  | some (.regex compiled) =>
    (compiled.search? text).map fun found => ⟨text, found.whole.1, found.whole.2, found.groups⟩

end DocLint

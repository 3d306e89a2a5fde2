import DocLint.Text.Words
import DocLint.Fault
/-!
# Findings

A **finding** is what a rule reports about a node: a message, and the part of
the node's text that it is about. Rules that are described as data may put any
value into any of the parts; the message is asked to be text where its title is
shown.
-/

namespace DocLint

/-- What a rule found at a node. -/
structure Finding where
  /-- The name of the rule. -/
  rule : Tree
  message : Tree
  start : Tree
  stop : Tree
  deriving DecidableEq, Repr

namespace Finding

/-- Equality of findings, part by part and by value. -/
def same (a b : Finding) : Bool :=
  a.rule.same b.rule && a.message.same b.message && a.start.same b.start && a.stop.same b.stop

/-- The first line of the message. -/
def title (f : Finding) : Except Fault String :=
  match f.message with
  | .str text => return Text.firstLine text
  | t => throw (.noOperation t.kind "split")

/-- A finding in one line: the rule, the title and the part of the text. -/
def text (f : Finding) : Except Fault String := do
  let title ← f.title
  return (← f.rule.shown) ++ ": " ++ title ++ " [" ++ (← f.start.shown) ++ ":" ++
    (← f.stop.shown) ++ "]"

/-- The text of a finding in messages. -/
def quoted (f : Finding) : String :=
  "LintRecord(" ++ f.rule.quoted ++ ", start=" ++ f.start.text ++ ", end=" ++ f.stop.text ++ ")"

/-- A finding as a record. -/
def toTree (f : Finding) : Tree :=
  .record [("rule", f.rule), ("message", f.message), ("start", f.start), ("end", f.stop)]

end Finding

end DocLint

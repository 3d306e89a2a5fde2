import DocLint.Config
import DocLint.Rule
/-!
# Built-in rules: what they have in common

A built-in rule has a name, a selector, perhaps an expression to look for, and an
action. Callbacks read fields of the matched nodes; a field that is not there
reads as null.
-/

namespace DocLint.Catalogue

/-- A built-in rule. -/
def rule (name : String) (selector : Selector) (action : Action)
    (pattern : Option Regex := none) : Rule :=
  ⟨.str name, selector, pattern.map .regex, action⟩

/-- The value of a field of the `index`-th matched node. -/
def field (nodes : Matched) (index : Nat) (key : String) : Callback.M Ref := do
  let s := (← get).store
  return (nodes[index]?.bind (s.field? · key)).getD .null

/-- Nothing to report. -/
def nothing : Answer := .value .null

/-- A message about the whole text. -/
def report (lines : List String) : Answer := .value (.str ("\n".intercalate lines))

/-- An action that reports the same message wherever the rule applies. -/
def saying (lines : List String) : Action := .message ("\n".intercalate lines)

/-- A whole number in a field; truth values count as 0 and 1. -/
def integer? : Ref → Option Int
  | .scalar (.int i) => some i
  | .scalar (.bool b) => some (if b then 1 else 0)
  | _ => none

/-- Write the scalar in a field out. -/
def shown : Ref → Except Fault String
  | .scalar value => (Tree.scalar value).written
  | .object _ => return ""

/-- The text in a field; `none` if something else is there. -/
def text? : Ref → Option String
  | .scalar (.str s) => some s
  | _ => none

/-- The text in a field if there is more to it than blanks. -/
def filledText? (ref : Ref) : Option String := (text? ref).filter (Text.strip · != "")

end DocLint.Catalogue

import DocLint.Selector.Error
import DocLint.Tree
/-!
# Faults of rules

What can be wrong with the description of a rule, or with what its callback
returns. A rule is named by whatever value stands in its description.
-/

namespace DocLint

/-- Why a rule cannot be built or does not give a finding. -/
inductive RuleError
  /-- There is neither a selector nor a pattern. -/
  | noTarget (name : Tree)
  | badSelector (name : Tree) (fault : SelectorError)
  /-- There is neither a callback nor a message. -/
  | noAction (name : Tree)
  /-- A pattern has an opening slash only. -/
  | unterminatedPattern (pattern : String)
  | unsupportedFlags (flags pattern : String)
  /-- A pattern is no regular expression; `body` is the part between the slashes. -/
  | invalidPattern (pattern body : String) (fault : Regex.Error)
  /-- The callback returned a record without a message. -/
  | noMessage (name : Tree)
  deriving DecidableEq, Repr

/-- The words for a fault. -/
def RuleError.message : RuleError → String
  | noTarget name => "Lint rule " ++ name.quoted ++ " must have a selector or a pattern"
  | badSelector name fault =>
    "Lint rule " ++ name.quoted ++ " has a bad selector: " ++ fault.message
  | noAction name => "Lint rule " ++ name.quoted ++ " needs a lint function or a message"
  | unterminatedPattern pattern => "Unterminated pattern: " ++ Text.quoted pattern
  | unsupportedFlags flags pattern =>
    "Unsupported pattern flags " ++ Text.quoted flags ++ " in " ++ Text.quoted pattern
  | invalidPattern pattern body fault =>
    "Invalid pattern " ++ Text.quoted pattern ++ ": " ++ fault.message body
  | noMessage name => "Lint rule " ++ name.quoted ++ " returned a result without a message"

end DocLint

import DocLint.Regex.Error
/-!
# Faults of selectors

What can be wrong with the text of a selector. Positions count characters from
the start of the text without the blanks around it.
-/

namespace DocLint

/-- Why a text is no selector. -/
inductive SelectorError
  /-- There is nothing but blanks. -/
  | empty
  /-- The pattern that starts at a position has no end. -/
  | unterminatedPattern (position : Nat) (source : String)
  /-- Behind the pattern that starts at a position stand letters or digits that
  are not the one flag there is. -/
  | unsupportedFlags (flags : String) (position : Nat)
  /-- Something stands behind a complete selector. -/
  | unexpectedToken (value : Option String) (position : Nat)
  /-- Something other than a comma stands behind a pattern. -/
  | patternNotLast (found : Option String) (position : Nat)
  /-- The text ends where a node type should stand. -/
  | endForNode (position : Nat)
  /-- Something else stands where a node type should stand. -/
  | noNode (found : Option String) (position : Nat)
  /-- The pattern is no regular expression. -/
  | invalidPattern (source : String) (fault : Regex.Error)
  deriving DecidableEq, Repr

namespace SelectorError

/-- The value of a token in messages. -/
def shown : Option String → String
  | some s => Text.quoted s
  | none => "None"

/-- The words for a fault. -/
def message : SelectorError → String
  | empty => "Empty selector"
  | unterminatedPattern position source =>
    "Unterminated pattern at position " ++ toString position ++ " in " ++ Text.quoted source
  | unsupportedFlags flags position =>
    "Unsupported pattern flags " ++ Text.quoted flags ++ " at position " ++ toString position
  | unexpectedToken value position =>
    "Unexpected token " ++ shown value ++ " at position " ++ toString position
  | patternNotLast found position =>
    "A pattern must come last in a selector; found " ++ shown found ++ " at position " ++
      toString position
  | endForNode position =>
    "Expected node type at position " ++ toString position ++ ", found end of selector"
  | noNode found position =>
    "Expected node type at position " ++ toString position ++ ", found " ++ shown found
  | invalidPattern source fault =>
    "Invalid pattern /" ++ source ++ "/: " ++ fault.message source

end SelectorError

end DocLint

import DocLint.Number.Literal
/-!
# Faults of regular expressions

What can be wrong with the text of a regular expression, and how it is said.
Most faults have a position, counted in characters; where the expression has
several lines the line and the column are added.
-/

namespace DocLint.Regex

/-- What is wrong. -/
inductive Problem
  | endingEscape
  | badEscape (text : String)
  | incompleteEscape (text : String)
  | octalRange (text : String)
  | undefinedCharacter (name : String)
  | invalidReference (index : Nat)
  | openReference
  | lookbehindReference
  | unterminatedSet
  | badRange (first last : String)
  | leastAboveMost
  | nothingToRepeat
  | multipleRepeat
  | unexpectedEnd
  | missing (what : String)
  | unknownExtension (text : String)
  | unknownFlag
  | localeFlag
  | clashingFlags
  | globalFlag (on : Bool)
  | repertoireOff
  | flagOnAndOff
  | lateFlags
  | badGroupName (name : String)
  | unknownGroupName (name : String)
  | badGroupNumber
  | redefinition (name : String) (index previous : Nat)
  | tooManyBranches
  | unbalanced
  | variableLookbehind
  | repeatInTemplate
  deriving DecidableEq, Repr

/-- The words for a problem. -/
def Problem.message : Problem → String
  | endingEscape => "bad escape (end of pattern)"
  | badEscape text => "bad escape " ++ text
  | incompleteEscape text => "incomplete escape " ++ text
  | octalRange text => "octal escape value " ++ text ++ " outside of range 0-0o377"
  | undefinedCharacter name => "undefined character name " ++ Text.quoted name
  | invalidReference index => "invalid group reference " ++ toString index
  | openReference => "cannot refer to an open group"
  | lookbehindReference => "cannot refer to group defined in the same lookbehind subpattern"
  | unterminatedSet => "unterminated character set"
  | badRange first last => "bad character range " ++ first ++ "-" ++ last
  | leastAboveMost => "min repeat greater than max repeat"
  | nothingToRepeat => "nothing to repeat"
  | multipleRepeat => "multiple repeat"
  | unexpectedEnd => "unexpected end of pattern"
  | missing what => "missing " ++ what
  | unknownExtension text => "unknown extension ?" ++ text
  | unknownFlag => "unknown flag"
  | localeFlag => "bad inline flags: cannot use 'L' flag with a str pattern"
  | clashingFlags => "bad inline flags: flags 'a', 'u' and 'L' are incompatible"
  | globalFlag true => "bad inline flags: cannot turn on global flag"
  | globalFlag false => "bad inline flags: cannot turn off global flag"
  | repertoireOff => "bad inline flags: cannot turn off flags 'a', 'u' and 'L'"
  | flagOnAndOff => "bad inline flags: flag turned on and off"
  | lateFlags => "global flags not at the start of the expression"
  | badGroupName name => "bad character in group name " ++ Text.quoted name
  | unknownGroupName name => "unknown group name " ++ Text.quoted name
  | badGroupNumber => "bad group number"
  | redefinition name index previous =>
    "redefinition of group name " ++ Text.quoted name ++ " as group " ++ toString index ++
      "; was group " ++ toString previous
  | tooManyBranches => "conditional backref with more than two branches"
  | unbalanced => "unbalanced parenthesis"
  | variableLookbehind => "look-behind requires fixed-width pattern"
  | repeatInTemplate => "internal: unsupported template operator MAX_REPEAT"

/-- Why an expression cannot be used. -/
inductive Error
  /-- The text is no expression. -/
  | malformed (problem : Problem) (position : Option Nat)
  /-- A number of rounds cannot be read. -/
  | rounds (fault : LiteralError)
  /-- A number of rounds is beyond what is counted. -/
  | repeatTooLarge
  /-- Two repertoires are asked for. -/
  | repertoires
  deriving DecidableEq, Repr

/-- A position in words; the line and the column only where there are several
lines. -/
def positionText (source : List Char) (position : Nat) : String :=
  let passed := source.take position
  let base := " at position " ++ toString position
  if source.contains '\n' then
    base ++ " (line " ++ toString (passed.count '\n' + 1) ++ ", column " ++
      toString ((passed.reverse.takeWhile (· != '\n')).length + 1) ++ ")"
  else base

/-- The message of a fault in the expression `source`. -/
def Error.message (source : String) : Error → String
  | malformed problem (some position) =>
    problem.message ++ positionText source.toList position
  | malformed problem none => problem.message
  | rounds fault => fault.message
  | repeatTooLarge => "the repetition number is too large"
  | repertoires => "ASCII and UNICODE flags are incompatible"

end DocLint.Regex

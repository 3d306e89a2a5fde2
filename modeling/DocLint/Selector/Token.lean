import DocLint.Fault
import DocLint.Text.Number
/-!
# Tokens of selectors

`Token.scan` cuts the text of a selector into tokens. Blanks are significant
only as the descendant combinator: they become a token between two node
selectors and disappear everywhere else. A slash opens a pattern, which runs to
the next slash that is neither escaped nor inside brackets.
-/

namespace DocLint

/-- The kinds of tokens. -/
inductive TokenKind
  /-- A node type. -/
  | ident
  | integer
  /-- The star. -/
  | universal
  /-- `>`, `+`, `~`, or blanks between node selectors. -/
  | combinator
  | comma
  /-- A text filter between slashes. -/
  | pattern
  /-- Any other single character. -/
  | other
  /-- The end of the text. -/
  | finish
  /-- A kind that the scanner does not make. -/
  | foreign (name : String)
  deriving DecidableEq, Repr

namespace TokenKind

/-- The name of a kind. -/
def name : TokenKind → String
  | ident => "IDENT"
  | integer => "INTEGER"
  | universal => "UNIVERSAL"
  | combinator => "COMBINATOR"
  | comma => "COMMA"
  | pattern => "PATTERN"
  | other => "OTHER"
  | finish => "EOF"
  | foreign name => name

/-- The kind of a name. -/
def ofName (name : String) : TokenKind :=
  ([ident, integer, universal, combinator, comma, pattern, other, finish].find?
    (·.name == name)).getD (foreign name)

/-- Does a token of this kind stand for a node? -/
def isNode : TokenKind → Bool
  | ident | universal => true
  | _ => false

end TokenKind

/-- A piece of a selector. -/
structure Token where
  kind : TokenKind
  value : Option String := none
  position : Nat := 0
  flags : String := ""
  deriving DecidableEq, Repr

namespace Token

/-- A token as messages show it. -/
def shown (t : Token) : String :=
  "Token(" ++ t.kind.name ++ ", " ++ SelectorError.shown t.value ++ ")"

/-- May `c` stand inside a node type? -/
def isNameChar (c : Char) : Bool := Text.isAlnum c || c == '_'

/-- The inside of a pattern and what follows its closing slash. A character
behind a backslash is taken as it is, and so is a slash in brackets. -/
def patternBody (inBrackets : Bool) : List Char → Option (List Char × List Char)
  | [] => none
  | ['\\'] => none
  | '\\' :: c :: rest => do
    let (body, rest) ← patternBody inBrackets rest
    return ('\\' :: c :: body, rest)
  | c :: rest =>
    if c == '/' && !inBrackets then some ([], rest)
    else do
      let (body, rest) ← patternBody (if c == '[' then true else if c == ']' then false
        else inBrackets) rest
      return (c :: body, rest)

/-- What follows a pattern is shorter than the pattern and what follows it. -/
theorem length_of_patternBody {b : Bool} {cs body rest : List Char}
    (h : patternBody b cs = some (body, rest)) : body.length + rest.length < cs.length := by
  fun_induction patternBody b cs generalizing body rest with
  | case1 => simp at h
  | case2 => simp at h
  | case3 b c more ih =>
    obtain ⟨⟨body', rest'⟩, h', e⟩ := Option.bind_eq_some_iff.mp h
    injection e with e
    injection e with e1 e2
    subst e1 e2
    have := ih h'
    simp only [List.length_cons]
    omega
  | case4 => simp_all
  | case5 b c more _ _ _ ih =>
    obtain ⟨⟨body', rest'⟩, h', e⟩ := Option.bind_eq_some_iff.mp h
    injection e with e
    injection e with e1 e2
    subst e1 e2
    have := ih h'
    simp only [List.length_cons]
    omega

/-- The characters at the front that pass a test are no more than there are. -/
theorem length_dropWhile_le (p : Char → Bool) (cs : List Char) :
    (cs.dropWhile p).length ≤ cs.length :=
  (List.dropWhile_suffix p).length_le

/-- What follows a pattern and its flags is shorter than all from the slash on. -/
theorem length_behind_pattern {cs body rest : List Char}
    (h : patternBody false cs = some (body, rest)) (p : Char → Bool) (c : Char) :
    (rest.dropWhile p).length < (c :: cs).length := by
  have := length_of_patternBody h
  have := length_dropWhile_le p rest
  simp only [List.length_cons]
  omega

/-- A token of one character. -/
def ofSymbol (c : Char) (position : Nat) : Token :=
  let kind : TokenKind :=
    if c == '*' then .universal
    else if c == '>' || c == '+' || c == '~' then .combinator
    else if c == ',' then .comma
    else .other
  ⟨kind, some (String.ofList [c]), position, ""⟩

/-- The descendant combinator, where blanks stand between two nodes. -/
def descendant (blanks : Bool) (before : Option TokenKind) (c : Char) (position : Nat) :
    List Token :=
  if blanks && before.any (·.isNode) && (c == '*' || Text.isLetter c) then
    [⟨.combinator, some " ", position, ""⟩]
  else []

/-- The tokens of a text from `position` on. `source` is the whole text, `before`
the kind of the last token, and `blanks` says whether blanks were passed since. -/
def scanFrom (source : String) (position : Nat) (blanks : Bool) (before : Option TokenKind)
    (cs : List Char) : Except SelectorError (List Token) :=
  match cs with
  | [] => .ok [⟨.finish, none, position, ""⟩]
  | c :: rest =>
    if Text.isBlank c then scanFrom source (position + 1) true before rest
    else
      let gap := descendant blanks before c position
      if Text.isLetter c then
        let name := c :: rest.takeWhile isNameChar
        have : (rest.dropWhile isNameChar).length < (c :: rest).length :=
          Nat.lt_succ_of_le (length_dropWhile_le _ _)
        (scanFrom source (position + name.length) false (some .ident)
          (rest.dropWhile isNameChar)).map
            (gap ++ ⟨.ident, some (String.ofList name), position, ""⟩ :: ·)
      else if Text.isDigit c then
        let digits := c :: rest.takeWhile Text.isDigit
        have : (rest.dropWhile Text.isDigit).length < (c :: rest).length :=
          Nat.lt_succ_of_le (length_dropWhile_le _ _)
        (scanFrom source (position + digits.length) false (some .integer)
          (rest.dropWhile Text.isDigit)).map
            (gap ++ ⟨.integer, some (String.ofList digits), position, ""⟩ :: ·)
      else if c == '/' then
        match h : patternBody false rest with
        | none => .error (.unterminatedPattern position source)
        | some (body, behind) =>
          let flags := behind.takeWhile Text.isAlnum
          if flags == [] || flags == ['i'] then
            have : (behind.dropWhile Text.isAlnum).length < (c :: rest).length :=
              length_behind_pattern h Text.isAlnum c
            (scanFrom source (position + 2 + body.length + flags.length) false (some .pattern)
              (behind.dropWhile Text.isAlnum)).map
                (gap ++ ⟨.pattern, some (String.ofList body), position, String.ofList flags⟩ :: ·)
          else .error (.unsupportedFlags (String.ofList flags) position)
      else
        let token := ofSymbol c position
        (scanFrom source (position + 1) false (some token.kind) rest).map (gap ++ token :: ·)
termination_by cs.length
decreasing_by
  all_goals simp only [List.length_cons] at *
  all_goals omega

/-- The tokens of a text, an end token last. -/
def scan (source : String) : Except SelectorError (List Token) :=
  scanFrom source 0 false none source.toList

end Token

end DocLint

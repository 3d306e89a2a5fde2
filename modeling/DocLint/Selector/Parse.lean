import DocLint.Selector.Basic
import DocLint.Selector.Token
import DocLint.Text.Words
/-!
# Reading selectors

The grammar, over tokens:

    selector := tree (',' tree)*
    tree     := node (combinator node)* pattern?
    node     := '*' | type

A chain of combinators leans to the left, a pattern filters the whole chain
before it, and several trees form a list. `Selector.parse` reads the text of a
selector without the blanks around it.
-/

namespace DocLint.Selector

/-- The token that stands for the end where the list of tokens is too short. -/
def endToken : Token := { kind := .finish }

/-- The next token. -/
def nextToken (tokens : List Token) : Token := tokens.head?.getD endToken

/-- The node selector that a token stands for. -/
def ofToken (t : Token) : Except Fault Selector :=
  match t.kind with
  | .universal => .ok .any
  | .ident => .ok (.type (t.value.getD ""))
  | .finish => .error (.selector (.endForNode t.position))
  | _ => .error (.selector (.noNode t.value t.position))

/-- The symbol of a combinator token; blanks if it has none. -/
def symbolOf (t : Token) : String :=
  match t.value with
  | none | some "" => " "
  | some s => s

/-- The combinator that a token stands for. -/
def combinatorOf (t : Token) : Except Fault Combinator :=
  match Combinator.ofSymbol? (symbolOf t) with
  | some kind => .ok kind
  | none => .error (.noKey (.str (symbolOf t)))

/-- May a tree selector end before this token? -/
def endsTree (t : Token) : Bool := t.kind == .comma || t.kind == .finish

variable [CharacterNames]

/-- The rest of a tree selector behind `left`, and the tokens behind it. -/
def parseChain (left : Selector) (tokens : List Token) :
    Except Fault (Selector × List Token) :=
  match tokens with
  | [] => .ok (left, [])
  | t :: rest =>
    if t.kind == .combinator then do
      let kind ← combinatorOf t
      let right ← ofToken (nextToken rest)
      match rest with
      | [] => return (.comb kind left right, [])
      | _ :: rest => parseChain (.comb kind left right) rest
    else if t.kind == .pattern then
      let following := nextToken rest
      if endsTree following then do
        let filter ← TextFilter.ofSource (t.value.getD "") t.flags
        return (.filtered left filter, rest)
      else .error (.selector (.patternNotLast following.value following.position))
    else .ok (left, tokens)

/-- A tree selector, and the tokens behind it. -/
def parseTree (tokens : List Token) : Except Fault (Selector × List Token) := do
  let first ← ofToken (nextToken tokens)
  parseChain first (tokens.drop 1)

/-- A tree selector does not add tokens. -/
theorem length_of_parseChain {left s : Selector} {tokens rest : List Token}
    (h : parseChain left tokens = .ok (s, rest)) : rest.length ≤ tokens.length := by
  fun_induction parseChain left tokens with
  | case1 => simp_all
  | case2 left t more hk ih1 =>
    cases hc : combinatorOf t with
    | error e => simp [hc, bind, Except.bind] at h
    | ok kind =>
      cases hn : ofToken (nextToken more) with
      | error e => simp [hc, hn, bind, Except.bind] at h
      | ok right =>
        cases more with
        | nil =>
          simp only [hc, hn, bind, Except.bind, pure, Except.pure, Except.ok.injEq,
            Prod.mk.injEq] at h
          simp [← h.2]
        | cons u more =>
          simp only [hc, hn, bind, Except.bind] at h
          have := ih1 kind right h
          simp only [List.length_cons]
          omega
  | case3 left t more hk hp following he =>
    cases hf : TextFilter.ofSource (t.value.getD "") t.flags with
    | error e => simp [hf, bind, Except.bind] at h
    | ok filter =>
      simp only [hf, bind, Except.bind, pure, Except.pure, Except.ok.injEq, Prod.mk.injEq] at h
      simp [← h.2]
  | case4 => simp at h
  | case5 => simp_all

/-- What follows a tree selector is shorter than all from the comma before it on. -/
theorem length_behind_comma {first s : Selector} {tokens rest : List Token}
    (h : parseChain first (tokens.drop 1) = .ok (s, rest)) (t : Token) :
    rest.length < (t :: tokens).length := by
  have := length_of_parseChain h
  simp only [List.length_drop] at this
  simp only [List.length_cons]
  omega

/-- The tree selectors that follow commas, and the tokens behind them. -/
def parseMore (tokens : List Token) : Except Fault (List Selector × List Token) :=
  match tokens with
  | [] => .ok ([], [])
  | t :: rest =>
    if t.kind == .comma then
      match ofToken (nextToken rest) with
      | .error fault => .error fault
      | .ok first =>
        match h : parseChain first (rest.drop 1) with
        | .error fault => .error fault
        | .ok (s, behind) =>
          have : behind.length < (t :: rest).length := length_behind_comma h t
          match parseMore behind with
          | .error fault => .error fault
          | .ok (more, behind) => .ok (s :: more, behind)
    else .ok ([], tokens)
termination_by tokens.length
decreasing_by assumption

/-- One selector stands for itself, several form a list. -/
def ofAlternatives (first : Selector) (more : List Selector) : Selector :=
  if more.isEmpty then first else .list (first :: more)

/-- The selector that tokens stand for. -/
def parseTokens (tokens : List Token) : Except Fault Selector := do
  let (first, rest) ← parseTree tokens
  let (more, rest) ← parseMore rest
  let t := nextToken rest
  if t.kind != .finish then throw (.selector (.unexpectedToken t.value t.position))
  return ofAlternatives first more

/-- Read a selector. -/
def parse (text : String) : Except Fault Selector := do
  let trimmed := Text.strip text
  if trimmed.isEmpty then throw (.selector .empty)
  match Token.scan trimmed with
  | .error fault => throw (.selector fault)
  | .ok tokens => parseTokens tokens

end DocLint.Selector

import DocLint.Regex.CharSet
import DocLint.Regex.Group
/-!
# Reading regular expressions

The grammar, over pieces:

    alternatives := sequence ('|' sequence)*
    sequence     := (item repetition?)*
    item         := character | escape | set | anchor | group

`Regex.parse` reads an expression by recursive descent. The descent is bounded by
a number that shrinks with every call and is large enough for every text, since
each level consumes a piece.
-/

namespace DocLint.Regex

namespace Parse

/-! ## Repetition -/

/-- The least and the greatest number of rounds of a repetition mark. -/
abbrev Rounds := Nat × Option Nat

/-- Numbers of rounds from here on are too large. -/
def roundLimit : Nat := 4294967295

/-- The number of rounds that digits stand for. -/
def roundCount (digits : List Char) : Parse Nat := do
  if Literal.maxDigits < digits.length then throw (.rounds (.tooManyDigits digits.length))
  let count := valueIn 10 digits
  if roundLimit ≤ count then throw .repeatTooLarge
  return count

/-- The bounds in braces behind the opening one, at position `start`; `none` if
what follows is no repetition. -/
def braceRounds? (start : Nat) : Parse (Option Rounds) := do
  match ← peek with
  | some p =>
    if p.is '\x7d' then return none
    let low ← takeAll isDigit
    let high ← if ← accept ',' then takeAll isDigit else pure low
    if !(← accept '\x7d') then return none
    let least ← roundCount low
    if high.isEmpty then return some (least, none)
    let most ← roundCount high
    if most < least then failAt .leastAboveMost (start + 1)
    return some (least, some most)
  | none => return none

/-- May an item be repeated? Conditions on a position may not, and neither may a
repetition, unless a group stands around it. -/
def repeatProblem? : Option Node → Option Problem
  | none | some (.anchor _) => some .nothingToRepeat
  | some (.loop _ _ _ _) => some .multipleRepeat
  | some _ => none

/-- The way of counting that follows a repetition mark. -/
def greed : Parse Greed := do
  if ← accept '?' then return .lazy
  else if ← accept '+' then return .possessive
  else return .greedy

/-- Repeat the last of `items`, which are in reverse order; the mark stands at
`start`. -/
def repeatLast (start : Nat) (rounds : Rounds) (items : List Node) : Parse (List Node) := do
  match repeatProblem? items.head? with
  | some problem => failAt problem start
  | none =>
    match items with
    | item :: rest => return .loop (← greed) rounds.1 rounds.2 item :: rest
    | [] => return items

/-! ## Grammar -/

/-- The parenthesis that closes the group from `start`. -/
def closing (start : Nat) : Parse Unit := do
  if !(← accept ')') then failAt (.missing "), unterminated subpattern") start

/-- The blanks that a verbose expression may hold. -/
def isLayout (p : Piece) : Bool :=
  p.isOneOf [' ', '\t', '\n', '\r', '\x0b', '\x0c']

mutual
/-- Alternatives, up to the end or a closing parenthesis. `top` says that no
group is open, `first` that no alternative came before. -/
def alternatives (verbose top first : Bool) : Nat → Parse Node
  | 0 => failAt .unbalanced 0
  | fuel + 1 => do
    let item ← sequence verbose top (top && first) fuel []
    if ← accept '|' then
      let s ← get
      let verbose := if top then s.flags.verbose else verbose
      return .alt item (← alternatives verbose top false fuel)
    else return item

/-- A sequence of items; `items` are those already read, in reverse order.
`first` says that switches for the whole expression may still come. -/
def sequence (verbose top first : Bool) : Nat → List Node → Parse Node
  | 0, _ => failAt .unbalanced 0
  | fuel + 1, items => do
    let finish : Parse Node := return Node.ofList items.reverse
    match ← peek with
    | none => finish
    | some p =>
      if p.isOneOf ['|', ')'] then finish
      else
        let _ ← next
        if verbose && isLayout p then sequence verbose top first fuel items
        else if verbose && p.is '#' then
          skipLine ((← get).rest.length + 1)
          sequence verbose top first fuel items
        else if p.escaped then sequence verbose top first fuel ((← escape p) :: items)
        else
          match p.char with
          | '[' => sequence verbose top first fuel ((← charSet p.position) :: items)
          | '.' => sequence verbose top first fuel (.any :: items)
          | '^' => sequence verbose top first fuel (.anchor .start :: items)
          | '$' => sequence verbose top first fuel (.anchor .finish :: items)
          | '?' => sequence verbose top first fuel (← repeatLast p.position (0, some 1) items)
          | '*' => sequence verbose top first fuel (← repeatLast p.position (0, none) items)
          | '+' => sequence verbose top first fuel (← repeatLast p.position (1, none) items)
          | '\x7b' =>
            let before ← get
            match ← braceRounds? p.position with
            | some rounds =>
              sequence verbose top first fuel (← repeatLast p.position rounds items)
            | none =>
              -- A brace that opens no repetition stands for itself.
              set before
              sequence verbose top first fuel (.code p.char.toNat :: items)
          | '(' =>
            match ← opened p.position with
            | .done none => sequence verbose top first fuel items
            | .done (some item) => sequence verbose top first fuel (item :: items)
            | .flags =>
              if !first || !items.isEmpty then failAt .lateFlags p.position
              let s ← get
              sequence s.flags.verbose top first fuel items
            | inner =>
              let item ← group verbose p.position inner fuel
              sequence verbose top first fuel (item :: items)
          | c => sequence verbose top first fuel (.code c.toNat :: items)

/-- The inside of a group that began at `start`, and its end. -/
def group (verbose : Bool) (start : Nat) (inner : Opened) : Nat → Parse Node
  | 0 => failAt .unbalanced 0
  | fuel + 1 => do
    match inner with
    | .capture name =>
      let index ← openGroup name
      let body ← alternatives verbose false false fuel
      closing start
      closeGroup index body
      return .capture index body
    | .scope on off =>
      let body ← alternatives ((verbose || on.verbose) && !off.verbose) false false fuel
      closing start
      return .scope on off body
    | .atomic =>
      let body ← alternatives verbose false false fuel
      closing start
      return .atomic body
    | .look ahead wanted =>
      let before := (← get).behind
      if !ahead && before.isNone then
        let count ← groupCount
        modify fun s => { s with behind := some count }
      let body ← alternatives verbose false false fuel
      if !ahead && before.isNone then modify fun s => { s with behind := none }
      closing start
      return .look ahead wanted body
    | .cond =>
      let index ← conditionGroup
      checkBehind index
      let yes ← sequence verbose false false fuel []
      let no ←
        if ← accept '|' then
          let no ← sequence verbose false false fuel []
          if (← peek).any (·.is '|') then fail .tooManyBranches 0
          pure no
        else pure .empty
      closing start
      return .cond index yes no
    | .done _ | .flags => failAt .unbalanced start
end

end Parse

/-- An expression that was read: its tree, its switches, its number of groups and
the widths of these. -/
structure Parsed where
  node : Node
  flags : Flags
  groups : List Width

/-- Read a whole expression, with `flags` set from outside. -/
def parseAll : Parse Parsed := do
  Parse.checkEnd
  let s ← get
  let node ← Parse.alternatives s.flags.verbose true true (4 * s.rest.length + 4)
  let s ← get
  if s.flags.ascii && s.flags.unicode then throw .repertoires
  if !s.rest.isEmpty then Parse.fail .unbalanced 0
  match s.asked.find? fun a => s.widths.length < a.1 with
  | some (index, position) => Parse.failAt (.invalidReference index) position
  | none =>
    let known := Parse.knownWidths s.widths
    if !node.lookbehindsFixed known then throw (.malformed .variableLookbehind none)
    if node.repeatsInTemplate s.flags then throw (.malformed .repeatInTemplate none)
    return ⟨node, s.flags, s.widths.map (·.getD ⟨0, 0⟩)⟩

/-- Read an expression. -/
def parse [CharacterNames] (source : String) (flags : Flags) : Except Error Parsed :=
  let cs := source.toList
  let (pieces, broken) := Piece.scan 0 cs
  parseAll.run' ⟨pieces, cs.length, broken, flags, [], [], none, [], inferInstance⟩

end DocLint.Regex

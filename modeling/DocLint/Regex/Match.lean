import DocLint.Regex.Syntax
import DocLint.Text.Blank
import DocLint.Text.Case
import DocLint.Text.Number
/-!
# Matching regular expressions

The meaning of an expression is a **matcher**: given what has to match behind
it, it tries its ways from a position in their order of preference and answers
with the first that lets the rest match. `Node.matcher` builds the matcher of
an expression by recursion on its tree.

Repetition is the only loop. A round that consumes nothing is the last one, so
a repetition ends after at most one round more than there are characters left,
beyond the rounds it must do; `rounds` starts from that number.
-/

namespace DocLint.Regex

/-- A span of the text, from its first character to the one behind its last. -/
abbrev Span := Nat × Nat

/-- Where an attempt stands: the position, and the spans of the groups from
number 1 on. -/
structure Attempt where
  position : Nat
  groups : List (Option Span)
  deriving DecidableEq, Repr

namespace Attempt

/-- The span of a group, if it has one. -/
def group? (a : Attempt) (index : Nat) : Option Span :=
  match index with
  | 0 => none
  | i + 1 => (a.groups[i]?).join

/-- The attempt with the span of a group set. -/
def keep (a : Attempt) (index : Nat) (span : Span) : Attempt :=
  { a with groups := a.groups.set (index - 1) (some span) }

end Attempt

/-- What has to match from an attempt on. -/
abbrev Goal := Attempt → Option Attempt

/-- A way to match in front of a goal. -/
abbrev Matcher := Goal → Goal

/-! ## Single characters -/

/-- Is `c` a word character? -/
def isWord (ascii : Bool) (c : Char) : Bool :=
  c == '_' || (if ascii then c.isAlphanum else Text.isAlnum c)

/-- Is `c` in the class? -/
def Category.has (category : Category) (ascii : Bool) (c : Char) : Bool :=
  match category with
  | digit => if ascii then c.isDigit else Text.isDecimal c
  | space => if ascii then c == ' ' || ('\t' ≤ c && c ≤ '\r') else Text.isBlank c
  | word => isWord ascii c

/-- Is the code point `n` in the item? -/
def SetItem.hasCode (item : SetItem) (n : Nat) : Bool :=
  match item with
  | code m => n == m
  | range first last => first ≤ n && n ≤ last
  | category _ _ => false

/-- Is `c` in the class that the item names? -/
def SetItem.hasCategory (item : SetItem) (ascii : Bool) (c : Char) : Bool :=
  match item with
  | category k negated => k.has ascii c != negated
  | _ => false

/-- Is the code point a letter of ASCII? -/
def isAsciiLetter (n : Nat) : Bool := (0x41 ≤ n && n ≤ 0x5A) || (0x61 ≤ n && n ≤ 0x7A)

/-- Does the code point have another case? -/
def hasCase (ascii : Bool) (n : Nat) : Bool :=
  if ascii then isAsciiLetter n else Text.caseRanges.has n

/-- Does the item hold a code point with another case? Beyond the first plane
all ranges count. -/
def SetItem.hasCase (ascii : Bool) : SetItem → Bool
  | code n => Regex.hasCase ascii n || (!ascii && 0xFFFF < n)
  | range first last =>
    if ascii then (first ≤ 0x5A && 0x41 ≤ last) || (first ≤ 0x7A && 0x61 ≤ last)
    else 0xFFFF < last || Text.caseRanges.any fun r => r.1 ≤ last && first ≤ r.2
  | category _ _ => false

/-- The lower-case form of a character. -/
def lowerOf (ascii : Bool) (c : Char) : Char := if ascii then c.toLower else Text.lowerChar c

/-- All code points that match `c` when case is ignored. -/
def variantsOf (ascii : Bool) (c : Char) : List Nat :=
  if ascii then
    if isAsciiLetter c.toNat then [c.toLower.toNat, c.toUpper.toNat] else [c.toNat]
  else Text.caseVariants c.toNat

/-- Does `c` match the item when case is ignored? A code point beyond the first
plane that is not `alone` in its set stands for the characters whose lower-case
form it is. -/
def SetItem.hasAnyCase (item : SetItem) (ascii alone : Bool) (c : Char) : Bool :=
  match item with
  | category _ _ => item.hasCategory ascii (lowerOf ascii c)
  | code n =>
    if alone || n ≤ 0xFFFF then (variantsOf ascii c).contains n
    else (lowerOf ascii c).toNat == n
  | range _ _ => (variantsOf ascii c).any item.hasCode

/-- Does `c` match the items of a set? When case is ignored and the set has
letters, it does if another case of it does. -/
def inSet (flags : Flags) (items : List SetItem) (c : Char) : Bool :=
  if flags.ignoreCase && items.any (·.hasCase flags.ascii) then
    items.any fun item => item.hasAnyCase flags.ascii (items.length == 1) c
  else items.any fun item => item.hasCategory flags.ascii c || item.hasCode c.toNat

/-! ## Matchers -/

variable (text : Array Char)

/-- One character that passes a test. -/
def oneChar (test : Char → Bool) : Matcher := fun goal a =>
  match text[a.position]? with
  | some c => if test c then goal { a with position := a.position + 1 } else none
  | none => none

/-- Is there a word character at a position? -/
def wordAt (ascii : Bool) (position : Nat) : Bool := (text[position]?).any (isWord ascii)

/-- Is there a line end at a position? -/
def lineEndAt (position : Nat) : Bool := text[position]? == some '\n'

/-- Do word and other characters meet at a position? -/
def isBoundary (ascii : Bool) (position : Nat) : Bool :=
  wordAt text ascii position != (position != 0 && wordAt text ascii (position - 1))

/-- Does a condition hold at a position? An empty text has neither boundaries
nor an inside. -/
def Anchor.holds (flags : Flags) (position : Nat) : Anchor → Bool
  | start => position == 0 || (flags.multiLine && lineEndAt text (position - 1))
  | finish =>
    position == text.size || (lineEndAt text position &&
      (flags.multiLine || position + 1 == text.size))
  | textStart => position == 0
  | textEnd => position == text.size
  | boundary => !text.isEmpty && isBoundary text flags.ascii position
  | inside => !text.isEmpty && !isBoundary text flags.ascii position

/-- The text of a span once more. -/
def sameText (same : Char → Char → Bool) : Nat → Span → Matcher
  | 0, _, goal, a => goal a
  | count + 1, (first, last), goal, a =>
    match text[first]?, text[a.position]? with
    | some c, some d =>
      if same c d then
        sameText same count (first + 1, last) goal { a with position := a.position + 1 }
      else none
    | _, _ => none

/-- May one more round follow `count` rounds? -/
def mayRepeat (most : Option Nat) (count : Nat) : Bool :=
  match most with
  | some n => count < n
  | none => true

/-- Rounds of a body, `count` of which are done; `last` is where the last round
beyond the least number began. More rounds are tried before fewer if `eager`. -/
def rounds (eager : Bool) (body : Matcher) (least : Nat) (most : Option Nat) (goal : Goal) :
    Nat → Nat → Option Nat → Goal
  | 0, _, _, _ => none
  | budget + 1, count, last, a =>
    if count < least then
      body (rounds eager body least most goal budget (count + 1) last) a
    else
      let again : Unit → Option Attempt := fun _ =>
        if mayRepeat most count && last != some a.position then
          body (rounds eager body least most goal budget (count + 1) (some a.position)) a
        else none
      if eager then (again ()).orElse fun _ => goal a
      else (goal a).orElse again

/-- As many rounds as possible, each in the first way in which it matches. -/
def firmRounds (body : Matcher) (least : Nat) (most : Option Nat) (goal : Goal) :
    Nat → Nat → Option Nat → Goal
  | 0, _, _, _ => none
  | budget + 1, count, last, a =>
    if count < least then
      match body some a with
      | some b => firmRounds body least most goal budget (count + 1) last b
      | none => none
    else if mayRepeat most count && last != some a.position then
      match body some a with
      | some b => firmRounds body least most goal budget (count + 1) (some a.position) b
      | none => goal a
    else goal a

/-- The matcher of an expression; `groups` knows the widths of its groups. -/
def Node.matcher (groups : Nat → Width) (flags : Flags) : Node → Matcher
  | .empty => fun goal => goal
  | .code n => oneChar text (inSet flags [.code n])
  | .any => oneChar text fun c => flags.dotAll || c != '\n'
  | .set negated items => oneChar text fun c => inSet flags items c != negated
  | .anchor condition => fun goal a =>
    if condition.holds text flags a.position then goal a else none
  | .seq first second => fun goal =>
    first.matcher groups flags (second.matcher groups flags goal)
  | .alt first second => fun goal a =>
    (first.matcher groups flags goal a).orElse fun _ => second.matcher groups flags goal a
  | .capture index body => fun goal a =>
    body.matcher groups flags (fun b => goal (b.keep index (a.position, b.position))) a
  | .scope on off body => body.matcher groups (flags.inScope on off)
  | .loop greed least most body => fun goal a =>
    -- Rounds that must be done, one a character, and one that consumes nothing.
    let budget := least + (text.size - a.position) + 2
    let round := body.matcher groups flags
    match greed with
    | .greedy => rounds true round least most goal budget 0 none a
    | .lazy => rounds false round least most goal budget 0 none a
    | .possessive => firmRounds round least most goal budget 0 none a
  | .atomic body => fun goal a => (body.matcher groups flags some a).bind goal
  | .look ahead wanted body => fun goal a =>
    let back := if ahead then 0 else (body.width groups).least
    let found :=
      -- A look-behind has one width, so there is only one place to start from.
      if a.position < back then none
      else body.matcher groups flags some { a with position := a.position - back }
    match found with
    | some b => if wanted then goal { b with position := a.position } else none
    | none => if wanted then none else goal a
  | .backref index => fun goal a =>
    match a.group? index with
    | none => none
    | some (first, last) =>
      let same : Char → Char → Bool := fun c d =>
        if flags.ignoreCase then lowerOf flags.ascii c == lowerOf flags.ascii d else c == d
      sameText text same (last - first) (first, last) goal a
  | .cond index yes no => fun goal a =>
    if (a.group? index).isSome then yes.matcher groups flags goal a
    else no.matcher groups flags goal a

end DocLint.Regex

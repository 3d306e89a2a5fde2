import DocLint.Number.Power
/-!
# Regular expressions

The tree of a regular expression, over code points. A tree says what is matched
and which groups are kept; how letter case, line ends and character classes are
read depends on `Flags`, which groups of their own may change for their inside.
-/

namespace DocLint.Regex

/-- The switches of an expression. -/
structure Flags where
  /-- Letters match in either case. -/
  ignoreCase : Bool := false
  /-- `^` and `$` match at every line. -/
  multiLine : Bool := false
  /-- The dot matches line ends too. -/
  dotAll : Bool := false
  /-- Blanks and comments in the expression are skipped. -/
  verbose : Bool := false
  /-- Classes and letter case know ASCII only. -/
  ascii : Bool := false
  /-- Classes and letter case know all of Unicode; the default, said aloud. -/
  unicode : Bool := false
  /-- Repetition is not allowed. -/
  template : Bool := false
  deriving DecidableEq, Repr

namespace Flags

/-- The switches that are on in either. -/
def union (a b : Flags) : Flags where
  ignoreCase := a.ignoreCase || b.ignoreCase
  multiLine := a.multiLine || b.multiLine
  dotAll := a.dotAll || b.dotAll
  verbose := a.verbose || b.verbose
  ascii := a.ascii || b.ascii
  unicode := a.unicode || b.unicode
  template := a.template || b.template

/-- The switches that are on in both. -/
def common (a b : Flags) : Flags where
  ignoreCase := a.ignoreCase && b.ignoreCase
  multiLine := a.multiLine && b.multiLine
  dotAll := a.dotAll && b.dotAll
  verbose := a.verbose && b.verbose
  ascii := a.ascii && b.ascii
  unicode := a.unicode && b.unicode
  template := a.template && b.template

/-- The switches of `a` that are off in `b`. -/
def without (a b : Flags) : Flags where
  ignoreCase := a.ignoreCase && !b.ignoreCase
  multiLine := a.multiLine && !b.multiLine
  dotAll := a.dotAll && !b.dotAll
  verbose := a.verbose && !b.verbose
  ascii := a.ascii && !b.ascii
  unicode := a.unicode && !b.unicode
  template := a.template && !b.template

/-- Is no switch on? -/
def isEmpty (f : Flags) : Bool := f == {}

/-- Is one of the two switches on that choose the repertoire? -/
def choosesRepertoire (f : Flags) : Bool := f.ascii || f.unicode

/-- The switches inside a group that turns some on and some off. Choosing a
repertoire undoes the choice made outside. -/
def inScope (outer on off : Flags) : Flags :=
  let base :=
    if on.choosesRepertoire then { outer with ascii := false, unicode := false } else outer
  (base.union on).without off

end Flags

/-- Classes of characters that have a name. -/
inductive Category
  | digit
  | space
  | word
  deriving DecidableEq, Repr

/-- A member of a set of characters. -/
inductive SetItem
  | code (n : Nat)
  | range (first last : Nat)
  | category (c : Category) (negated : Bool)
  deriving DecidableEq, Repr

/-- Conditions on a position. -/
inductive Anchor
  /-- `^`: the start of the text, or of a line. -/
  | start
  /-- `$`: the end of the text, before a last line end, or the end of a line. -/
  | finish
  /-- The start of the text. -/
  | textStart
  /-- The end of the text. -/
  | textEnd
  /-- Between a word character and none. -/
  | boundary
  /-- Not between a word character and none. -/
  | inside
  deriving DecidableEq, Repr

/-- How a repetition weighs its numbers of rounds. -/
inductive Greed
  /-- As many rounds as possible first. -/
  | greedy
  /-- As few rounds as possible first. -/
  | lazy
  /-- As many rounds as possible, never fewer. -/
  | possessive
  deriving DecidableEq, Repr

/-- A regular expression. -/
inductive Node
  | empty
  | code (n : Nat)
  | any
  | set (negated : Bool) (items : List SetItem)
  | anchor (a : Anchor)
  | seq (first second : Node)
  | alt (first second : Node)
  /-- A group whose text is kept under a number. -/
  | capture (index : Nat) (body : Node)
  /-- A group that may turn flags on and off inside. -/
  | scope (on off : Flags) (body : Node)
  /-- `least` to `most` rounds; without `most`, any number. -/
  | loop (greed : Greed) (least : Nat) (most : Option Nat) (body : Node)
  /-- The first way in which the body matches, and no other. -/
  | atomic (body : Node)
  /-- The text ahead of the position, or behind it, matches, or does not. -/
  | look (ahead wanted : Bool) (body : Node)
  /-- The text of a group once more. -/
  | backref (index : Nat)
  /-- One of two ways, by whether a group has a text. -/
  | cond (index : Nat) (yes no : Node)
  deriving DecidableEq, Repr

namespace Node

/-- Nodes one after the other. -/
def ofList : List Node → Node
  | [] => empty
  | [n] => n
  | n :: rest => seq n (ofList rest)

end Node

/-- Widths are not counted beyond this number. -/
def maxWidth : Nat := twoTo 64

/-- The least and the greatest number of characters of a match. -/
structure Width where
  least : Nat
  most : Nat
  deriving DecidableEq, Repr

namespace Width

/-- Both numbers, cut at `maxWidth`. -/
def clamp (w : Width) : Width := ⟨min w.least maxWidth, min w.most maxWidth⟩

end Width

/-- The width of a node; `groups` knows the widths of the groups that may be
referred to. -/
def Node.width (groups : Nat → Width) : Node → Width
  | .empty | .anchor _ | .look _ _ _ => ⟨0, 0⟩
  | .code _ | .any | .set _ _ => ⟨1, 1⟩
  | .seq a b =>
    let v := a.width groups
    let w := b.width groups
    Width.clamp ⟨v.least + w.least, v.most + w.most⟩
  | .alt a b =>
    let v := a.width groups
    let w := b.width groups
    ⟨min v.least w.least, max v.most w.most⟩
  | .capture _ body | .scope _ _ body | .atomic body => body.width groups
  | .loop _ least most body =>
    let w := body.width groups
    Width.clamp ⟨w.least * least,
      match most with
      | some n => w.most * n
      | none => if w.most == 0 then 0 else maxWidth⟩
  | .backref i => groups i
  | .cond _ yes no =>
    let v := yes.width groups
    let w := no.width groups
    ⟨min v.least w.least, max v.most w.most⟩

/-- Is every look-behind of one width only? -/
def Node.lookbehindsFixed (groups : Nat → Width) : Node → Bool
  | .empty | .code _ | .any | .set _ _ | .anchor _ | .backref _ => true
  | .seq a b | .alt a b | .cond _ a b =>
    a.lookbehindsFixed groups && b.lookbehindsFixed groups
  | .capture _ body | .scope _ _ body | .atomic body | .loop _ _ _ body =>
    body.lookbehindsFixed groups
  | .look ahead _ body =>
    (ahead || (body.width groups).least == (body.width groups).most) &&
      body.lookbehindsFixed groups

/-- Does a repetition stand where the flags forbid it? -/
def Node.repeatsInTemplate (flags : Flags) : Node → Bool
  | .empty | .code _ | .any | .set _ _ | .anchor _ | .backref _ => false
  | .seq a b | .alt a b | .cond _ a b =>
    a.repeatsInTemplate flags || b.repeatsInTemplate flags
  | .capture _ body | .atomic body | .look _ _ body => body.repeatsInTemplate flags
  | .scope on off body => body.repeatsInTemplate (flags.inScope on off)
  | .loop _ _ _ body => flags.template || body.repeatsInTemplate flags

end DocLint.Regex

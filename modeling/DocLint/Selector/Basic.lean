import DocLint.Fault
import DocLint.Regex
/-!
# Selectors

A **selector** says which nodes of a document are meant: any node, the nodes of
a type, or nodes that stand in a relation to others (`Combinator`). A selector
may carry a text filter, a regular expression that the node's text has to
contain; it does not take part in matching, only in the rules that use it. A
list of selectors means the nodes that any of them means.

The tree also has room for things that only turn up where a program builds
selectors by hand: a combinator of unknown name, and a value that is no selector
at all (`foreign`). They can be compared, but neither formatted nor matched.
-/

namespace DocLint

/-- How a node stands to the one that the left side of a combinator means. -/
inductive Combinator
  /-- The left node is some ancestor. -/
  | ancestor
  /-- The left node is the nearest ancestor. -/
  | parent
  /-- The left element stands right before it in a list. -/
  | previous
  /-- The left element stands somewhere before it in a list. -/
  | sibling
  /-- No relation at all. -/
  | unknown (name : String)
  deriving DecidableEq, Repr

namespace Combinator

/-- The combinator of a name; every name has one. -/
def ofName : String → Combinator
  | "ancestor" => ancestor
  | "parent" => parent
  | "previous" => previous
  | "sibling" => sibling
  | name => unknown name

/-- The name of a combinator. -/
def name : Combinator → String
  | ancestor => "ancestor"
  | parent => "parent"
  | previous => "previous"
  | sibling => "sibling"
  | unknown name => name

/-- The combinator that is written by a symbol. -/
def ofSymbol? : String → Option Combinator
  | " " => some ancestor
  | ">" => some parent
  | "+" => some previous
  | "~" => some sibling
  | _ => none

/-- How a combinator is written between two selectors. -/
def infixText? : Combinator → Option String
  | ancestor => some " "
  | parent => some " > "
  | previous => some " + "
  | sibling => some " ~ "
  | unknown _ => none

end Combinator

/-- A text filter: a regular expression as it is written, together with its
compiled form. -/
structure TextFilter where
  source : String
  flags : String
  regex : Regex

namespace TextFilter

/-- Equality of text filters, as they are written. -/
def same (a b : TextFilter) : Bool := a.source == b.source && a.flags == b.flags

/-- The fault of an expression, as selectors report it. -/
def faultOf (source : String) : Regex.Error → Fault
  | .malformed problem position => .selector (.invalidPattern source (.malformed problem position))
  | limit => .regexLimit limit

/-- Compile a text filter. The flag `i`, among any others, ignores case. -/
def ofSource [CharacterNames] (source flags : String) : Except Fault TextFilter :=
  match Regex.compile source (flags.toList.contains 'i') with
  | .ok regex => .ok ⟨source, flags, regex⟩
  | .error fault => .error (faultOf source fault)

end TextFilter

/-- Which nodes are meant. -/
inductive Selector
  /-- Every node. -/
  | any
  /-- The nodes of a type. -/
  | type (name : String)
  /-- The nodes that `right` means and that stand to one that `left` means as the
  combinator says. -/
  | comb (kind : Combinator) (left right : Selector)
  /-- A selector with a text filter. -/
  | filtered (inner : Selector) (filter : TextFilter)
  /-- The nodes that any of the alternatives means. -/
  | list (alternatives : List Selector)
  /-- A value that is no selector. -/
  | foreign (value : Tree)

instance : Inhabited Selector := ⟨.any⟩

namespace Selector

mutual
/-- Equality of selectors: same shape, same names, same text filters. -/
def same : Selector → Selector → Bool
  | .any, .any => true
  | .type a, .type b => a == b
  | .comb k l r, .comb k' l' r' => k == k' && same l l' && same r r'
  | .filtered s f, .filtered s' f' => same s s' && f.same f'
  | .list as, .list bs => sameList as bs
  | .foreign a, .foreign b => a.same b
  | _, _ => false

/-- Equality of lists of selectors. -/
def sameList : List Selector → List Selector → Bool
  | [], [] => true
  | a :: as, b :: bs => same a b && sameList as bs
  | _, _ => false
end

mutual
/-- The text of a selector. -/
def format : Selector → Except Fault String
  | .any => .ok "*"
  | .type name => .ok name
  | .comb kind left right => do
    let l ← format left
    match kind.infixText? with
    | none => throw (.noKey (.str kind.name))
    | some between =>
      let r ← format right
      return l ++ between ++ r
  | .filtered inner filter => do
    return (← format inner) ++ " /" ++ filter.source ++ "/" ++ filter.flags
  | .list alternatives => do
    return ", ".intercalate (← formatList alternatives)
  | .foreign value => throw (.type (.unsupportedSelector value.kind))

/-- The texts of several selectors. -/
def formatList : List Selector → Except Fault (List String)
  | [] => .ok []
  | s :: rest => do
    let t ← format s
    return t :: (← formatList rest)
end

/-- The text of a selector where a program shows it; a value that is no selector
shows as itself. -/
def shown : Selector → Except Fault String
  | .foreign value => value.shown
  | s => s.format

end Selector

end DocLint

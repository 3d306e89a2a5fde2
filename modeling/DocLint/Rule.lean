import DocLint.Rule.Callback
import DocLint.Selector.Parse
/-!
# Rules

A **rule** is asked about every node of a document. Its selector has to match at
the node, and its pattern has to be found in the node's text; then its `Action`
says what is reported. A selector with several alternatives is tried from left to
right, and an alternative with a text filter of its own is searched for that
instead of the rule's pattern.

Rules come from a `Description`, which is plain data apart from the callback, or
from the parts that `Rule.ofParts` checks.
-/

namespace DocLint

/-- What a rule does where it applies. -/
inductive Action
  /-- Report a message about the place of the pattern. -/
  | message (text : String)
  /-- Ask a callback. -/
  | ask (callback : Callback)

/-- A rule. -/
structure Rule where
  name : Tree
  selector : Selector
  pattern : Option Pattern
  action : Action

namespace Rule

/-- Rules without a selector look at text leaves. -/
def defaultSelector : Selector := .type "text"

/-- The message of a rule that has no callback. -/
def message? (r : Rule) : Option String :=
  match r.action with
  | .message text => some text
  | .ask _ => none

/-- The alternatives of a selector. -/
def alternativesOf : Selector → List Selector
  | .list alternatives => alternatives
  | selector => [selector]

/-- What is looked for where an alternative matches. -/
def patternFor (r : Rule) : Selector → Option Pattern
  | .filtered _ filter => some (.regex filter.regex)
  | _ => r.pattern

/-- The alternatives of a rule, each with what it looks for. -/
def alternatives (r : Rule) : List (Selector × Option Pattern) :=
  (alternativesOf r.selector).map fun s => (s, r.patternFor s)

/-- The text of a rule in messages. -/
def quoted (r : Rule) : Except Fault String := do
  return "Rule(" ++ (← r.name.written) ++ ", " ++ Text.quoted (← r.selector.shown) ++ ")"

/-! ## Asking a rule -/

/-- The first alternative that matches at a cursor and whose pattern is found. -/
def target? (s : Store) (c : Cursor) (content : String) :
    List (Selector × Option Pattern) → Except Fault (Option (Matched × TextMatch))
  | [] => return none
  | (selector, pattern) :: rest => do
    match ← selector.find? s c with
    | none => target? s c content rest
    | some nodes =>
      match Pattern.search? pattern content with
      | some found => return some (nodes, found)
      | none => target? s c content rest

/-- What an action answers. -/
def Action.answer (nodes : Matched) (found : TextMatch) : Action → Callback.M Answer
  | .message text => return .finding ⟨.null, .str text, .int found.start, .int found.stop⟩
  | .ask callback => callback nodes found

/-- Ask a rule about the node at a cursor, whose text is `content`. -/
def check (r : Rule) (c : Cursor) (content : String) : Callback.M (Option Finding) := do
  match ← target? (← get).store c content r.alternatives with
  | none => return none
  | some (nodes, found) =>
    let answer ← Action.answer nodes found r.action
    answer.finding? r.name content.length

/-! ## Making rules -/

/-- What is offered as the action of a rule. -/
inductive Offer
  | callback (ask : Callback)
  | value (value : Tree)

/-- Does an offer count as empty? -/
def Offer.isEmpty : Offer → Bool
  | .callback _ => false
  | .value t => t.isEmpty

/-- The action that is offered, if it is one. -/
def Offer.action? : Offer → Option Action
  | .callback ask => some (.ask ask)
  | .value (.str text) => some (.message text)
  | .value _ => none

/-- A rule needs a selector or a pattern, and an action. -/
def ofParts (name : Tree) (selector : Option Selector) (pattern : Option Pattern)
    (offer : Offer) : Except Fault Rule := do
  if selector.isNone && pattern.isNone then throw (.about name (.rule (.noTarget name)))
  match offer.action? with
  | none => throw (.about name (.rule (.noAction name)))
  | some action => return ⟨name, selector.getD defaultSelector, pattern, action⟩

variable [CharacterNames]

/-- The selector that is described by a value where only text will do. -/
def describedSelector? (t : Tree) : Except Fault (Option Selector) :=
  if t.isEmpty then return none
  else
    match t with
    | .str s => do return some (← Selector.parse s)
    | t => throw (.noOperation t.kind "strip")

/-- The selector that is given: text is read, empty or not, and another value is
kept as it is unless it is empty. -/
def givenSelector? (name : Tree) : Selector → Except Fault (Option Selector)
  | .foreign (.str s) =>
    match Selector.parse s with
    | .ok selector => return some selector
    | .error (.selector fault) => throw (.about name (.rule (.badSelector name fault)))
    | .error fault => throw fault
  | .foreign t => return if t.isEmpty then none else some (.foreign t)
  | selector => return some selector

/-- Is no selector given? -/
def isMissing : Selector → Bool
  | .foreign t => t.isEmpty
  | _ => false

/-- Make a rule from a given selector and the value of a pattern. -/
def make (name : Tree) (selector : Selector) (pattern : Tree) (offer : Offer) :
    Except Fault Rule := do
  if isMissing selector && pattern.isEmpty then throw (.about name (.rule (.noTarget name)))
  let selector ← givenSelector? name selector
  let pattern ← Pattern.ofTree? pattern
  ofParts name selector pattern offer

/-- A rule as it is described by data. -/
structure Description where
  name : Tree
  selector : Tree
  pattern : Tree
  message : Tree
  lint : Offer

/-- Make a rule from its description. What `lint` offers goes before the message. -/
def ofDescription (d : Description) : Except Fault Rule := do
  let name := if d.name.isEmpty then .str "unnamed rule" else d.name
  let selector ← describedSelector? d.selector
  let pattern ← Pattern.ofTree? d.pattern
  ofParts name selector pattern (if d.lint.isEmpty then .value d.message else d.lint)

end Rule

end DocLint

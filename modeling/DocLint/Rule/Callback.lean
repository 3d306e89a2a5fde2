import DocLint.Diagnostic
import DocLint.Rule.Finding
import DocLint.Rule.Pattern
import DocLint.Selector.Match
import DocLint.Tree.Order
/-!
# Callbacks of rules

A rule may leave it to a **callback** whether there is something to report. The
callback is given the matched nodes and the place of the pattern; it can look at
the document, and report diagnostics to whoever listens. Its `Answer` is any
value or a ready finding.
-/

namespace DocLint

/-- What callbacks work in: the document, and the diagnostics reported so far, if
anyone listens. -/
structure Session where
  store : Store
  heard : Option (List Diagnostic)

/-- A computation of a callback. -/
abbrev Callback.M := EStateM Fault Session

/-- The type of what stands in a place, whatever value it is; null if it has
none. -/
def Session.typeOf (s : Session) (ref : Ref) : Tree :=
  match s.store.field? ref "type" with
  | some type => s.store.tree type
  | none => .null

/-- Report a diagnostic about something of a type. Nothing happens if no one
listens. -/
def Session.report (code : String) (type message : Tree) (s : Session) : Session :=
  { s with heard := s.heard.map (· ++ [.make (.str code) type message]) }

/-- What a callback answers. -/
inductive Answer
  | value (value : Tree)
  | finding (finding : Finding)

/-- Decides whether there is something to report about the matched nodes. -/
abbrev Callback := Matched → TextMatch → Callback.M Answer

namespace Answer

/-- The finding that a record describes, for a text of `size` characters. -/
def ofFields (rule : Tree) (size : Nat) (fields : List (String × Tree)) :
    Except Fault Finding := do
  match fieldOf? fields "message" with
  | none => throw (.about rule (.rule (.noMessage rule)))
  | some message =>
    let text ← message.shown
    let start ← ((fieldOf? fields "start").getD (.int 0)).whole
    let stop ← ((fieldOf? fields "end").getD (.int size)).whole
    return ⟨rule, .str text, .int start, .int stop⟩

/-- The finding that an answer stands for, for the rule that was asked and a text
of `size` characters. An empty value reports nothing, text is about the whole
text, and a record may say which part it is about. -/
def finding? (rule : Tree) (size : Nat) : Answer → Except Fault (Option Finding)
  | .finding f => return some { f with rule := rule }
  | .value t =>
    if t.isEmpty then return none
    else
      match t with
      | .str message => return some ⟨rule, .str message, .int 0, .int size⟩
      | .record fields => do return some (← ofFields rule size fields)
      | t => throw (.about rule (.type (.unsupportedResult rule t.kind)))

end Answer

end DocLint

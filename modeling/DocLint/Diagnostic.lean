import DocLint.Fault
/-!
# Diagnostics

A **diagnostic** is about the document itself, not about its text: a shape that
a rule could make no sense of, or something that a run had to leave undone.
-/

namespace DocLint

/-- A problem with the shape of a document. -/
structure Diagnostic where
  code : Tree
  /-- The type of the node in question; null if there is none. -/
  nodeType : Tree
  message : Tree
  deriving DecidableEq, Repr

namespace Diagnostic

/-- A diagnostic; an empty message leaves the code to speak for itself. -/
def make (code nodeType message : Tree) : Diagnostic :=
  ⟨code, nodeType, if message.isEmpty then code else message⟩

/-- Equality of diagnostics: code and node type count, the message does not. -/
def same (a b : Diagnostic) : Bool := a.code.same b.code && a.nodeType.same b.nodeType

/-- A diagnostic in one line. -/
def text (d : Diagnostic) : String :=
  (if d.nodeType = .null then "" else d.nodeType.text ++ ": ") ++
    if d.message.same d.code then d.code.text else d.code.text ++ " - " ++ d.message.text

/-- The text of a diagnostic in messages. -/
def quoted (d : Diagnostic) : String :=
  if d.nodeType = .null then "LintDiagnostic(" ++ d.code.quoted ++ ")"
  else "LintDiagnostic(" ++ d.code.quoted ++ ", node_type=" ++ d.nodeType.quoted ++ ")"

end Diagnostic

end DocLint

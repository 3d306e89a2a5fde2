import DocLint.Lint.Highlight
/-!
# Lint runs

A **run** asks every rule about every node of a document, in the order of the
walk and, at each node, of the rules. With highlighting, the nodes that have
findings are wrapped once the walk is over, the last ones first; so no rule sees
the wrappers, and no wrapper moves a node that is still to be wrapped.

A run listens to diagnostics only for its own time: who listened before listens
again afterwards, also when the run fails. Runs may be started by callbacks of
other runs.
-/

namespace DocLint.Lint

/-- What is asked of a run. -/
structure Options where
  /-- Wrap the nodes that have findings. -/
  highlight : Bool := false
  /-- Keep the diagnostics. -/
  listen : Bool := false
  /-- Write down what happens. -/
  trace : Bool := false
  /-- Is told of every finding, by its rule and title and the node. It may do what
  callbacks do, and a fault ends the run. -/
  report : Option (String → Nat → Callback.M Unit) := none

/-- What a run leaves behind, whether or not it failed. -/
structure Outcome where
  /-- The findings, in order. -/
  findings : Except Fault (List Finding)
  /-- The diagnostics, if the run listened. -/
  diagnostics : List Diagnostic
  /-- What was reported, and about which node. -/
  reports : List (String × Nat)
  /-- The lines that were written down. -/
  trace : List String

/-- What a run keeps while it walks. Lists are kept with the last entry in
front. -/
structure Progress where
  heard : Option (List Diagnostic)
  findings : List Finding := []
  flagged : List Flagged := []
  reports : List (String × Nat) := []
  trace : List String := []

/-- Do in the course of a walk what callbacks do. -/
def inSession {α : Type} (m : Callback.M α) : Walk Progress α := do
  let scene ← get
  let keep (s : Session) : Scene Progress :=
    { scene with store := s.store, data := { scene.data with heard := s.heard } }
  match m.run ⟨scene.store, scene.data.heard⟩ with
  | .ok a s =>
    set (keep s)
    return a
  | .error fault s =>
    set (keep s)
    throw fault

/-- Write a line down, indented. -/
def note (indent : Nat) (line : String) : Walk Progress Unit :=
  Walk.modifyData fun p => { p with trace := ("".pushn ' ' indent ++ line) :: p.trace }

/-- The type of a node, as far as lines show it. -/
def typeText (s : Store) (node : Nat) : Except Fault String := do
  (s.tree (← s.field (.object node) "type")).shown

/-- Tell of a finding. -/
def announce (options : Options) (node : Nat) (f : Finding) : Walk Progress Unit := do
  match options.report with
  | none => pure ()
  | some report =>
    let title ← f.title
    let text := (← f.rule.shown) ++ ": " ++ title
    inSession (report text node)
    Walk.modifyData fun p => { p with reports := (text, node) :: p.reports }
  if options.trace then
    let scene ← get
    note (2 * scene.cursor.depth + 2)
      ((← f.rule.shown) ++ " fired at " ++ (← typeText scene.store node))

/-- Ask the rules about a node, one after the other. -/
def ask (options : Options) (node : Nat) (content : String) :
    List Rule → Walk Progress (List Finding)
  | [] => return []
  | rule :: rest => do
    match ← inSession (rule.check (← get).cursor content) with
    | none => ask options node content rest
    | some f =>
      announce options node f
      return f :: (← ask options node content rest)

/-- What a run does at each node. -/
def visit (options : Options) (rules : List Rule) : Visitor Progress := fun node content => do
  if options.trace then
    let scene ← get
    note (2 * scene.cursor.depth) ("visit " ++ (← typeText scene.store node) ++ " (" ++
      toString content.length ++ " chars)")
  let found ← ask options node content rules
  if !found.isEmpty then
    let cursor := (← get).cursor
    Walk.modifyData fun p => { p with
      findings := found.reverse ++ p.findings
      flagged :=
        if options.highlight then ⟨cursor, node, content, found⟩ :: p.flagged else p.flagged }

/-- Wrap the nodes that have findings, in the order given. -/
def highlightAll : List Flagged → Callback.M Unit
  | [] => return
  | flagged :: rest => do
    Highlight.apply flagged
    highlightAll rest

/-- Walk the document, then highlight it. -/
def walkAndHighlight (options : Options) (rules : List Rule) (root : Ref) :
    Walk Progress (List Finding) := do
  let _ ← Walk.document (visit options rules) root
  inSession (highlightAll (← get).data.flagged)
  return (← get).data.findings.reverse

/-- Run rules over the document under `root`. -/
def run (options : Options) (rules : List Rule) (root : Ref) : StateM Session Outcome := do
  let session ← get
  let start : Progress := { heard := if options.listen then some [] else none }
  let finish (findings : Except Fault (List Finding)) (scene : Scene Progress) :
      Outcome × Session :=
    let p := scene.data
    (⟨findings, p.heard.getD [], p.reports.reverse, p.trace.reverse⟩,
      ⟨scene.store, session.heard⟩)
  let (outcome, session) :=
    match (walkAndHighlight options rules root).run ⟨session.store, .fresh, start⟩ with
    | .ok findings scene => finish (.ok findings) scene
    | .error fault scene => finish (.error fault) scene
  set session
  return outcome

end DocLint.Lint

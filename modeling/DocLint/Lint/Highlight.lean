import DocLint.Rule
import DocLint.Walk
/-!
# Highlighting

Findings are made visible in the document itself: what was found at a node is
wrapped in a `lint` node that carries the messages and the names of the rules. A
text leaf whose findings are about a part of its text is split, and only that
part is wrapped. The root has no place where a wrapper could stand, so a finding
there is reported as a diagnostic instead.
-/

namespace DocLint

/-- A node with findings, as the walk saw it. -/
structure Flagged where
  cursor : Cursor
  node : Nat
  content : String
  findings : List Finding

namespace Highlight

/-- The messages as one text, a blank line between each two; `index` is the number
of the first. -/
def messages (index : Nat) : List Finding → Except Fault (List String)
  | [] => return []
  | f :: rest =>
    match f.message with
    | .str text => do return text :: (← messages (index + 1) rest)
    | t => throw (.type (.joinItem index t.kind))

/-- The fields of a `lint` node. -/
def lintFields (content : List Tree) (findings : List Finding) (insideTable : Tree) :
    Except Fault (List (String × Tree)) := do
  let texts ← messages 0 findings
  return [("type", .str "lint"), ("content", .list content),
    ("message", .str ("\n\n".intercalate texts)),
    ("rules", .list (findings.map (·.rule))), ("insideTable", insideTable)]

/-- The `lint` node around some content. -/
def lintNode (content : List Tree) (findings : List Finding) (insideTable : Tree) :
    Except Fault Tree := do
  return .record (← lintFields content findings insideTable)

/-- The text leaf of a text. -/
def textLeaf (text : String) : Tree := .record [("type", .str "text"), ("content", .str text)]

/-- The smallest of several values, the first of those that are. -/
def leastOf : List Tree → Except Fault Tree
  | [] => return .int 0
  | t :: rest => rest.foldlM (fun best t => do
      return if ← Tree.compare .less t best then t else best) t

/-- The largest of several values, the first of those that are. -/
def greatestOf : List Tree → Except Fault Tree
  | [] => return .int 0
  | t :: rest => rest.foldlM (fun best t => do
      return if ← Tree.compare .greater t best then t else best) t

/-- The part of a text of `size` characters that findings are about: from the
first start to the last end, cut at the ends of the text. Where the end comes
first, the part is empty. -/
def part (findings : List Finding) (size : Nat) : Except Fault (Tree × Tree) := do
  let first ← leastOf (findings.map (·.start))
  let start ← (← first.greatest (.int 0)).least (.int size)
  let last ← greatestOf (findings.map (·.stop))
  let stop ← start.greatest (← last.least (.int size))
  return (start, stop)

/-- A bound of a piece of text. -/
def bound : Tree → Except Fault Int
  | .int i => return i
  | .bool b => return if b then 1 else 0
  | _ => throw (.type .sliceBound)

/-- Is the part less than all of a text of `size` characters? -/
def isProper (start stop : Tree) (size : Nat) : Except Fault Bool := do
  if ← Tree.compare .less (.int 0) start then return true
  Tree.compare .less stop (.int size)

/-- The pieces of a text: what is before the part, the wrapped part, and what is
behind it. Empty outer pieces are left out. -/
def pieces (content : String) (start stop : Tree) (findings : List Finding)
    (insideTable : Bool) : Except Fault (List Tree) := do
  let before ←
    if ← Tree.compare .greater start (.int 0) then
      pure [textLeaf (Text.slice content 0 (← bound start))]
    else pure []
  let middle := textLeaf (Text.slice content (← bound start) (← bound stop))
  let wrapped ← lintNode [middle] findings (.bool insideTable)
  let behind ←
    if ← Tree.compare .less stop (.int content.length) then
      pure [textLeaf (Text.slice content (← bound stop) content.length)]
    else pure []
  return before ++ [wrapped] ++ behind

/-- Does one of the nodes have the type `table`? -/
def insideTable (s : Store) : List Nat → Except Fault Bool
  | [] => return false
  | id :: rest => do
    if (← s.field (.object id) "type") = .scalar (.str "table") then return true
    insideTable s rest

/-- Wrap a node. -/
def wrap (flagged : Flagged) (inside : Bool) (s : Store) : Except Fault Store := do
  let fields ← lintFields [] flagged.findings (.bool inside)
  let (list, s) := s.insert (.list [.object flagged.node])
  let (fields, s) := (Store.addFields fields).run s
  let (id, s) := s.insert (.record (putField fields "content" (.object list)))
  return (← flagged.cursor.replace s (.object id)).1

/-- Make the findings at a node visible. -/
def apply (flagged : Flagged) : Callback.M Unit := do
  if flagged.cursor.isRoot then
    modify fun session => session.report "unhighlighted-root"
      (session.typeOf (.object flagged.node)) (.str "The root node can't be wrapped in a lint node")
  else
    let session ← get
    let inside ← insideTable session.store flagged.cursor.ancestors.toList
    let size := flagged.content.length
    if session.store.isTextLeaf (.object flagged.node) then
      let (start, stop) ← part flagged.findings size
      if ← isProper start stop size then
        let new ← pieces flagged.content start stop flagged.findings inside
        let (ref, s) := (Store.add (.list new)).run session.store
        let (s, _) ← flagged.cursor.replace s ref
        set { session with store := s }
        return
    -- No text leaf, or all of its text: the node goes into the wrapper as it is.
    set { session with store := ← wrap flagged inside session.store }

end Highlight

end DocLint

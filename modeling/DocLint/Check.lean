import DocLint.Catalogue
import DocLint.Lint.Run
import DocLint.Lint.Text
/-!
# Checks

What ought to hold of any document and any selector, as a test: a selector reads
back from its text, matching leaves the cursor where it is, a match ends at the node
it was asked about, highlighting changes neither the findings nor the text and leaves
a document that can be written out. A check fails with what does not hold, or with
whatever fault came up on the way.
-/

namespace DocLint.Check

/-- Notes the nodes that are visited, the last one in front. -/
def listing : Visitor (List Nat) := fun node _ => Walk.modifyData (node :: ·)

/-- The number of nodes that a walk visits. -/
def nodeCount (s : Store) (root : Ref) : Except Fault Nat := do
  let (result, scene) := walk listing s root []
  let _ ← result
  return scene.data.length

/-- Matches a selector at each node, and checks that the cursor has not moved and
where the match ends. -/
def matching (selector : Selector) : Visitor Unit := fun node _ => do
  let before ← get
  let found ← selector.find? before.store before.cursor
  let after ← get
  if after.cursor != before.cursor then throw (.check .stateMoved)
  match found with
  | none => return
  | some nodes =>
    if nodes.getLast? != some (.object node) then throw (.check .wrongEnd)

/-- Notes what a selector matches at each node, the last one in front. -/
def answering (selector : Selector) : Visitor (List (Option Matched)) := fun _ _ => do
  let scene ← get
  let found ← selector.find? scene.store scene.cursor
  Walk.modifyData (found :: ·)

/-- Check the text of a selector, and the selector on a document. A text that is
no selector is left alone. -/
def selector [CharacterNames] (source : String) (s : Store) (root : Ref) : Except Fault Unit := do
  match Selector.parse source with
  | .error (.selector _) => return
  | .error fault => throw fault
  | .ok selector =>
    let text ← selector.shown
    let again ← Selector.parse text
    if !again.same selector then throw (.check (.roundTrip source text))
    let _ ← (walk (matching selector) s root ()).1

/-- Are two lists of findings equal, one by one? -/
def sameFindings : List Finding → List Finding → Bool
  | [], [] => true
  | a :: as, b :: bs => a.same b && sameFindings as bs
  | _, _ => false

/-- Check a document: with and without highlighting. -/
def document (s : Store) (root : Ref) : Except Fault Unit := do
  let (result, scene) := walk (answering .any) s root []
  let _ ← result
  if scene.data.length != (← nodeCount s root) then throw (.check .visitCount)
  let rules := Catalogue.defaultRules
  let (plain, _) := (Lint.run {} rules root).run ⟨s, none⟩
  let findings ← plain.findings
  let (marked, session) :=
    (Lint.run { highlight := true, listen := true } rules root).run ⟨s, none⟩
  let again ← marked.findings
  if !sameFindings findings again then throw (.check .recordsChanged)
  let count ← Lint.characterCount session.store root
  if count != (← Lint.characterCount s root) then throw (.check .textChanged)
  if session.store.isCircular root then throw .circular

end DocLint.Check

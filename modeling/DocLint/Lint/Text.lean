import DocLint.Walk
/-!
# The text of a document

Text leaves that stand next to each other can be merged into one, and all text
can be counted.
-/

namespace DocLint.Lint

variable {σ : Type}

/-- Take the text leaves behind the position into the leaf `node`, at most
`count` of them. -/
def absorb (node : Nat) : (count : Nat) → Walk σ Unit
  | 0 => return
  | count + 1 => do
    let scene ← get
    let next ← scene.cursor.nextSibling scene.store
    match scene.store.leafText? next with
    | none => return
    | some more =>
      let own := (scene.store.leafText? (.object node)).getD ""
      let s ← scene.store.setField (.object node) "content" (.scalar (.str (own ++ more)))
      let (_, s) ← scene.cursor.removeNext s
      set { scene with store := s }
      absorb node count

/-- Merges every run of text leaves that stand next to each other into its first
leaf. -/
def merging : Visitor Unit := fun node _ => do
  let scene ← get
  if scene.store.isTextLeaf (.object node) then
    let siblings := (scene.cursor.siblings? scene.store).map (·.2)
    absorb node (siblings.getD []).length

/-- Merge text leaves in the document under `root`. -/
def mergeText (s : Store) (root : Ref) : Except Fault Unit × Store :=
  let (result, scene) := walk merging s root ()
  (result.map fun _ => (), scene.store)

/-- Adds up the lengths of the text leaves. -/
def counting : Visitor Nat := fun node content => do
  if (← get).store.isTextLeaf (.object node) then
    Walk.modifyData (· + content.length)

/-- The number of characters in the text leaves of the document under `root`. -/
def characterCount (s : Store) (root : Ref) : Except Fault Nat := do
  let (result, scene) := walk counting s root 0
  let _ ← result
  return scene.data

end DocLint.Lint

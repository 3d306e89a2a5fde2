import DocLint.Cursor.Edit
/-!
# Walks

A **walk** goes through a document depth first, fields and items in their order,
and calls a visitor at every node after everything under the node has been
walked. The visitor gets the node and its *content*, the text of all leaves
under it, and may edit the document at the cursor of the walk.

* Fields are walked by the keys that a record had when the walk came to it. The
  field `type` is never walked, nor is one that has gone since.
* A list is walked by index, up to the length it has at that moment. After each
  item the walk goes on behind the pending step of the cursor, which is where
  edits leave it. So an item that is deleted or inserted in a visit makes the
  walk neither skip an item nor come twice.
* Records that are no nodes are walked through, but not visited.

A visitor may keep sending the walk back, so a walk carries an allowance that it
spends on every item and every level down.
-/

namespace DocLint

/-- What a walk works on: the document, the position, and what the visitor
keeps. -/
structure Scene (σ : Type) where
  store : Store
  cursor : Cursor
  data : σ

/-- A computation in the course of a walk. -/
abbrev Walk (σ : Type) := EStateM Fault (Scene σ)

/-- What is done at each node, given the node and its content. -/
abbrev Visitor (σ : Type) := (node : Nat) → (content : String) → Walk σ Unit

namespace Walk

variable {σ : Type}

/-- Change the cursor of a walk by a move. -/
def move {α : Type} (m : Cursor.Move α) : Walk σ α := do
  let scene ← get
  match m.run scene.cursor with
  | .ok a c =>
    set { scene with cursor := c }
    return a
  | .error fault c =>
    set { scene with cursor := c }
    throw fault

/-- Change what the visitor keeps. -/
def modifyData (f : σ → σ) : Walk σ Unit := modify fun w => { w with data := f w.data }

/-- Enter an object. -/
def enter (id : Nat) : Walk σ Unit :=
  move <| modify fun c => { c with containers := c.containers.push id }

/-- Leave the object that was entered last. -/
def leave : Walk σ Unit := move Cursor.dropContainer

/-- Enter a node. -/
def enterNode (id : Nat) : Walk σ Unit := do
  enter id
  move <| modify fun c => { c with ancestors := c.ancestors.push id }

/-- Leave a node, which is then the position. -/
def leaveNode (id : Nat) : Walk σ Unit := do
  let _ ← move Cursor.dropAncestor
  leave
  move <| modify fun c => { c with current := .object id }

/-- Take a step down. -/
def stepDown (step : Step) : Walk σ Unit :=
  move <| modify fun c => { c with steps := c.steps.push step }

/-- Take back the last step, whatever it is by now. -/
def stepUp : Walk σ Step := move Cursor.dropStep

/-- Take back the last step, and say which index comes behind it. -/
def nextIndex : Walk σ Int := do
  match ← stepUp with
  | .index i => return i + 1
  | .key _ => throw (.type .keyPlusOne)

/-- The object in a field, if the record has such a field by now and an object
is in it. -/
def objectIn? (s : Store) (id : Nat) (key : String) : Option Nat :=
  match s.field? (.object id) key with
  | some (.object child) => some child
  | _ => none

mutual
/-- Walk what stands in a place, and say the text of the leaves under it. -/
def value (visit : Visitor σ) : Nat → Ref → Walk σ String
  | _, .scalar _ => return ""
  | 0, .object _ => throw .endless
  | allowance + 1, .object id => do
    let store := (← get).store
    match store.cell? id with
    | none => return ""
    | some (.list _) =>
      enter id
      let content ← items visit allowance id 0 ""
      leave
      return content
    | some (.record record) =>
      -- The keys are taken down now; fields that visits add are not walked.
      let keys := record.map (·.1)
      if store.isNode (.object id) then
        enterNode id
        let own := (store.leafText? (.object id)).getD ""
        let content ← fields visit allowance id keys own
        leaveNode id
        visit id content
        return content
      else
        enter id
        let content ← fields visit allowance id keys ""
        leave
        return content

/-- Walk the items of a list from an index on; `content` is the text before
them. -/
def items (visit : Visitor σ) : Nat → (id : Nat) → Int → (content : String) → Walk σ String
  | 0, _, _, _ => throw .endless
  | allowance + 1, id, index, content => do
    let items := ((← get).store.items? (.object id)).getD []
    if index < items.length then
      stepDown (.index index)
      match Cursor.place? items.length index with
      | none => throw (.range .read)
      | some k =>
        let more ← value visit allowance (items[k]?.getD .null)
        -- Edits in the visits moved the pending step, so the next index comes from there.
        Walk.items visit allowance id (← nextIndex) (content ++ more)
    else return content

/-- Walk the fields of a record under the given keys; `content` is the text
before them. -/
def fields (visit : Visitor σ) :
    Nat → (id : Nat) → List String → (content : String) → Walk σ String
  | _, _, [], content => return content
  | 0, _, _ :: _, _ => throw .endless
  | allowance + 1, id, key :: keys, content => do
    let store := (← get).store
    match if key = "type" then none else objectIn? store id key with
    | none => fields visit allowance id keys content
    | some child =>
      stepDown (.key key)
      let more ← value visit allowance (.object child)
      -- Whatever stands in the field by now, the walk goes on with the next key.
      let _ ← stepUp
      fields visit allowance id keys (content ++ more)
end

/-- What a walk may spend beyond one for every place of the document. Walks that
a visitor sends back more often are given up. -/
def patience : Nat := 100000

/-- Walk a document. -/
def document (visit : Visitor σ) (root : Ref) : Walk σ String := do
  let store := (← get).store
  value visit (store.extent + patience) root

end Walk

/-- Walk the document that lies under `root` in a store. The last two parts of the
answer hold when the walk failed, too. -/
def walk {σ : Type} (visit : Visitor σ) (store : Store) (root : Ref) (data : σ) :
    Except Fault String × Scene σ :=
  match (Walk.document visit root).run ⟨store, .fresh, data⟩ with
  | .ok content scene => (.ok content, scene)
  | .error fault scene => (.error fault, scene)

end DocLint

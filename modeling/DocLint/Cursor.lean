import DocLint.Stack
import DocLint.Store.Path
/-!
# Cursors

A **cursor** is a position in a document that lies in a store: what stands
there (`current`) and the way down to it on three stacks.

* `containers`: the objects that are passed through, the root first;
* `steps`: at each of them, the index or key that leads on, so that the last
  step of the last container leads to `current`;
* `ancestors`: the nodes among the containers.

A visitor edits a document through the cursor of its visit (`Cursor.Edit`). Such
an edit turns the last step into a *pending* one, behind which the walk goes on:
deleting an item moves it one back, so it may be negative, and negative indexes
count from the end of the list. Questions and moves therefore make no assumption
about the three stacks; where they do not fit together, a question or a move
fails.
-/

namespace DocLint

/-- A position in a document. -/
structure Cursor where
  current : Ref
  containers : Stack Nat
  steps : Stack Step
  ancestors : Stack Nat
  deriving DecidableEq, Repr

namespace Cursor

/-- The cursor that has not been anywhere yet. -/
def fresh : Cursor := ⟨.null, .empty, .empty, .empty⟩

instance : Inhabited Cursor := ⟨fresh⟩

/-! ## Where the cursor is -/

/-- The nearest node above the position. -/
def parent? (c : Cursor) : Option Nat := c.ancestors.top?

/-- How many nodes stand above the position. -/
def depth (c : Cursor) : Nat := c.ancestors.size

/-- Does nothing contain the position? -/
def isRoot (c : Cursor) : Bool := c.containers.size == 0

/-- Does a node stand above the position? -/
def hasParent (c : Cursor) : Bool := 0 < c.ancestors.size

/-! ## Neighbours in a list -/

/-- The place in a list of `size` items that an index means; a negative index
counts from the end. -/
def place? (size : Nat) (index : Int) : Option Nat :=
  if 0 ≤ index then if index < size then some index.toNat else none
  else if 0 ≤ index + size then some (index + size).toNat else none

/-- The list that holds the position: its number and items. -/
def siblings? (s : Store) (c : Cursor) : Option (Nat × List Ref) := do
  let id ← c.containers.top?
  let items ← s.items? (.object id)
  return (id, items)

/-- The index behind the pending one. -/
def nextIndex (c : Cursor) : Except Fault Int :=
  match c.steps.top? with
  | some (.index i) => return i + 1
  | some (.key _) => throw (.type .keyPlusOne)
  | none => throw (.type .nothingPlusOne)

/-- The index of the item before the position in a list of `size` items. -/
def previousIndex? (c : Cursor) (size : Nat) : Except Fault (Option Nat) :=
  match c.steps.top? with
  | some (.index i) => return if 0 < i ∧ i ≤ size then some (i - 1).toNat else none
  | some (.key _) => throw (.type (.noOrder "<" .int .str))
  | none => throw (.type (.noOrder "<" .int .null))

/-- The item right before the position; null if there is none. -/
def previousSibling (s : Store) (c : Cursor) : Except Fault Ref := do
  match c.siblings? s with
  | none => return .null
  | some (_, items) =>
    match ← c.previousIndex? items.length with
    | none => return .null
    | some i => return items[i]?.getD .null

/-- Does an item stand before the position in its list? -/
def hasPreviousSibling (s : Store) (c : Cursor) : Except Fault Bool := do
  match c.siblings? s with
  | none => return false
  | some (_, items) => return (← c.previousIndex? items.length).isSome

/-- The item right behind the position; null if there is none. -/
def nextSibling (s : Store) (c : Cursor) : Except Fault Ref := do
  match c.siblings? s with
  | none => return .null
  | some (_, items) =>
    let i ← c.nextIndex
    if i < items.length then
      match place? items.length i with
      | some k => return items[k]?.getD .null
      | none => throw (.range .read)
    else return .null

/-- The text of a cursor in messages. -/
def quoted (s : Store) (c : Cursor) : Except Fault String := do
  let type ← if c.current = .null then pure .null else s.field c.current "type"
  let index := match c.steps.top? with
    | some step => step.toScalar
    | none => .null
  return "TraversalState(node=" ++ (← (s.tree type).written) ++ ", depth=" ++ toString c.depth ++
    ", index=" ++ index.quoted ++ ")"

/-! ## Moves

A move changes the cursor alone. One that fails leaves it where it failed. -/

/-- Something that changes a cursor. -/
abbrev Move := EStateM Fault Cursor

/-- Forget the innermost container. -/
def dropContainer : Move Unit := do
  let (_, rest) ← (← get).containers.pop
  modify fun c => { c with containers := rest }

/-- Forget the last step, and say what it was. -/
def dropStep : Move Step := do
  let (step, rest) ← (← get).steps.pop
  modify fun c => { c with steps := rest }
  return step

/-- Forget the nearest ancestor, and say which it was. -/
def dropAncestor : Move Nat := do
  let (id, rest) ← (← get).ancestors.pop
  modify fun c => { c with ancestors := rest }
  return id

/-- Forget containers, the innermost first, and their steps until `id` is the
innermost one. `known` are the containers. -/
def unwindTo (id : Nat) (known : List Nat) : Move Unit :=
  match known with
  | [] => throw (.range .takeFromEmpty)
  | top :: rest =>
    if top = id then return
    else do
      dropContainer
      let _ ← dropStep
      unwindTo id rest

/-- Go to the nearest ancestor. -/
def goToParent : Move Unit := do
  if !(← get).hasParent then throw (.traversal .parentOfRoot)
  let id ← dropAncestor
  unwindTo id (← get).containers.topFirst
  dropContainer
  let _ ← dropStep
  modify fun c => { c with current := .object id }

/-- Go to the item right before the position. -/
def goToPrevious (s : Store) : Move Unit := do
  let c ← get
  match c.siblings? s with
  | none => throw (.traversal .noPreviousSibling)
  | some (_, items) =>
    match ← c.previousIndex? items.length with
    | none => throw (.traversal .noPreviousSibling)
    | some i =>
      let steps ← c.steps.replaceTop (.index i)
      set { c with steps := steps, current := items[i]?.getD .null }

/-- Where a move leads to. -/
def Move.from (move : Move Unit) (c : Cursor) : Except Fault Cursor :=
  match move.run c with
  | .ok _ c => .ok c
  | .error fault _ => .error fault

end Cursor

end DocLint

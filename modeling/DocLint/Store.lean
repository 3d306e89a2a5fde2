import DocLint.Fault
/-!
# Stores

While a document is walked, its lists and records are changed in place, moved
and shared. A **store** gives each of them an identity: the number of its cell.
A place in a list or a field holds a `Ref`, that is a scalar or the number of an
object, so two equal lists in different places stay two objects, and one list in
two places is changed in both.

`add` lays a tree out in a store, the parts before the whole; `tree` reads it
back. Cells are never given up.
-/

namespace DocLint

/-- What stands in a place of a document. -/
inductive Ref
  | scalar (value : Scalar)
  | object (id : Nat)
  deriving DecidableEq, Repr

/-- What is held where there is nothing. -/
@[match_pattern] abbrev Ref.null : Ref := .scalar .null

instance : Inhabited Ref := ⟨.null⟩

/-- Equality of what stands in two places: objects by identity, scalars by
value. -/
def Ref.same : Ref → Ref → Bool
  | .object a, .object b => a == b
  | .scalar a, .scalar b => a.same b
  | _, _ => false

/-- An object: a list, or a record whose fields have different names. -/
inductive Cell
  | list (items : List Ref)
  | record (fields : List (String × Ref))
  deriving DecidableEq, Repr

/-- How many places a cell has, itself included. -/
def Cell.extent : Cell → Nat
  | .list items => items.length + 1
  | .record fields => fields.length + 1

/-- The objects of a document, by number. -/
structure Store where
  cells : Array Cell
  deriving Repr

namespace Store

/-- The store without objects. -/
def empty : Store := ⟨#[]⟩

instance : Inhabited Store := ⟨empty⟩

/-- The object of a number. -/
def cell? (s : Store) (id : Nat) : Option Cell := s.cells[id]?

/-- Put an object in the place of another. -/
def put (s : Store) (id : Nat) (cell : Cell) : Store := ⟨s.cells.setIfInBounds id cell⟩

/-- Add an object under the next free number. -/
def insert (s : Store) (cell : Cell) : Nat × Store := (s.cells.size, ⟨s.cells.push cell⟩)

@[simp] theorem cell?_insert (s : Store) (cell : Cell) :
    (s.insert cell).2.cell? (s.insert cell).1 = some cell := by
  simp [insert, cell?]

/-- The number of places in all objects, together with the number of objects. -/
def extent (s : Store) : Nat := s.cells.foldl (fun total cell => total + cell.extent) 0

/-! ## Trees in a store -/

mutual
/-- Add a tree: its parts from left to right, then the whole. -/
def add : Tree → StateM Store Ref
  | .scalar value => return .scalar value
  | .list items => do
    let refs ← addItems items
    modifyGet fun s => let (id, s) := s.insert (.list refs); (.object id, s)
  | .record fields => do
    let refs ← addFields fields
    modifyGet fun s => let (id, s) := s.insert (.record refs); (.object id, s)

/-- Add the items of a list. -/
def addItems : List Tree → StateM Store (List Ref)
  | [] => return []
  | t :: rest => do
    let ref ← add t
    return ref :: (← addItems rest)

/-- Add the fields of a record. -/
def addFields : List (String × Tree) → StateM Store (List (String × Ref))
  | [] => return []
  | (key, t) :: rest => do
    let ref ← add t
    return (key, ref) :: (← addFields rest)
end

/-- The tree under a place, as far as `depth` levels of objects. -/
def treeWithin (s : Store) : Nat → Ref → Tree
  | _, .scalar value => .scalar value
  | 0, .object _ => .null
  | depth + 1, .object id =>
    match s.cell? id with
    | none => .null
    | some (.list items) => .list (items.map (s.treeWithin depth))
    | some (.record fields) =>
      .record (fields.map fun (key, ref) => (key, s.treeWithin depth ref))

/-- The tree under a place. No way down passes an object twice, so there are at
most as many levels as objects. -/
def tree (s : Store) (ref : Ref) : Tree := s.treeWithin s.cells.size ref

/-- Does every way down from a place end, after `depth` objects at most? -/
def endsWithin (s : Store) : Nat → Ref → Bool
  | _, .scalar _ => true
  | 0, .object _ => false
  | depth + 1, .object id =>
    match s.cell? id with
    | none => true
    | some (.list items) => items.all (s.endsWithin depth)
    | some (.record fields) => fields.all fun (_, ref) => s.endsWithin depth ref

/-- Is there an object under a place that is inside itself? Other ways down are no
longer than there are objects. -/
def isCircular (s : Store) (ref : Ref) : Bool := !s.endsWithin s.cells.size ref

/-! ## Looking at objects -/

/-- The kind of what stands in a place. -/
def kind (s : Store) : Ref → Kind
  | .scalar value => value.kind
  | .object id =>
    match s.cell? id with
    | some (.list _) => .list
    | some (.record _) => .record
    | none => .null

/-- The items of a list; `none` on anything else. -/
def items? (s : Store) : Ref → Option (List Ref)
  | .object id =>
    match s.cell? id with
    | some (.list items) => some items
    | _ => none
  | .scalar _ => none

/-- The fields of a record; `none` on anything else. -/
def fields? (s : Store) : Ref → Option (List (String × Ref))
  | .object id =>
    match s.cell? id with
    | some (.record fields) => some fields
    | _ => none
  | .scalar _ => none

/-- The value of a field; `none` on a record without it and on anything but a
record. -/
def field? (s : Store) (ref : Ref) (key : String) : Option Ref :=
  (s.fields? ref).bind (fieldOf? · key)

/-- The value of a field that has to be there. -/
def field (s : Store) (ref : Ref) (key : String) : Except Fault Ref :=
  match ref with
  | .scalar (.str _) => throw (.type .textIndex)
  | .scalar value => throw (.type (.noParts value.kind))
  | .object id =>
    match s.cell? id with
    | some (.record fields) =>
      match fieldOf? fields key with
      | some ref => return ref
      | none => throw (.noKey (.str key))
    | _ => throw (.type (.listIndex .str))

/-- Set a field of what stands in a place: in its place if it is there, at the
end if not. -/
def setField (s : Store) (ref : Ref) (key : String) (value : Ref) : Except Fault Store :=
  match ref with
  | .scalar old => throw (.type (.noAssignment old.kind))
  | .object id =>
    match s.cell? id with
    | some (.record fields) => return s.put id (.record (putField fields key value))
    | _ => throw (.type (.listIndex .str))

/-- The type of a node; `none` on what is no node. -/
def nodeType? (s : Store) (ref : Ref) : Option String :=
  match s.field? ref "type" with
  | some (.scalar (.str type)) => some type
  | _ => none

/-- Is it a record with a `type` that is text? -/
def isNode (s : Store) (ref : Ref) : Bool := (s.nodeType? ref).isSome

/-- The text of a text leaf; `none` on anything else. -/
def leafText? (s : Store) (ref : Ref) : Option String :=
  match s.nodeType? ref, s.field? ref "content" with
  | some "text", some (.scalar (.str text)) => some text
  | _, _ => none

/-- Is it a node of type `text` whose content is text? -/
def isTextLeaf (s : Store) (ref : Ref) : Bool := (s.leafText? ref).isSome

end Store

end DocLint

import DocLint.Cursor
/-!
# Edits at a cursor

What a visitor may do to the document at its position: put something else in the
place of what stands there, delete it, or take out the item behind it. Edits
leave everything before the position alone, and move the pending step so that a
walk goes on with the first item that stood behind the position and is still
there.
-/

namespace DocLint.Cursor

/-- The store after an edit, and the cursor with its new pending step. -/
abbrev Edited := Store × Cursor

/-- The place in a list of `size` items that a step means, for writing. -/
def writePlace (size : Nat) : Option Step → Except Fault (Nat × Int)
  | some (.index i) =>
    match place? size i with
    | some k => return (k, i)
    | none => throw (.range .write)
  | some (.key _) => throw (.type (.listIndex .str))
  | none => throw (.type (.listIndex .null))

/-- The name of the field that a step means. -/
def fieldName : Option Step → Scalar
  | some step => step.toScalar
  | none => .null

/-- Move the pending step to an index. -/
def withIndex (c : Cursor) (i : Int) : Except Fault Cursor :=
  return { c with steps := ← c.steps.replaceTop (.index i) }

/-- Take the current value out of its container. -/
def delete (s : Store) (c : Cursor) (id : Nat) : Cell → Except Fault Edited
  | .list items => do
    let (k, i) ← writePlace items.length c.steps.top?
    -- The walk goes on behind the pending step, that is with the item that moves up.
    return (s.put id (.list (items.eraseIdx k)), ← c.withIndex (i - 1))
  | .record fields =>
    match fieldName c.steps.top? with
    | .str key =>
      if (fieldOf? fields key).isSome then
        return (s.put id (.record (dropField fields key)), c)
      else throw (.noKey (.str key))
    | key => throw (.noKey key)

/-- Put a value in the place of the current one. -/
def overwrite (s : Store) (c : Cursor) (id : Nat) (value : Ref) : Cell → Except Fault Edited
  | .list items => do
    let (k, _) ← writePlace items.length c.steps.top?
    return (s.put id (.list (items.set k value)), c)
  | .record fields =>
    let key := match fieldName c.steps.top? with
      | .str key => key
      | other => other.quoted
    return (s.put id (.record (putField fields key value)), c)

/-- The bound of a piece of a list of `size` items that an index means: counted
from the end if negative, and within the list in any case. -/
def bound (size : Nat) (i : Int) : Nat :=
  if i < 0 then (i + size).toNat else min i.toNat size

/-- Put the items of a list in the place of the current value. -/
def splice (s : Store) (c : Cursor) (id : Nat) (list : Ref) (new : List Ref) :
    Cell → Except Fault Edited
  | .list items => do
    let next ← c.nextIndex
    let start := bound items.length (next - 1)
    let stop := max start (bound items.length next)
    let s := s.put id (.list (items.take start ++ new ++ items.drop stop))
    -- The pending step is then the last of the new items, none of which is walked. They are
    -- counted only now, when a list that is put into itself has grown.
    let count := ((s.items? list).getD []).length
    return (s, ← c.withIndex (next - 1 + count - 1))
  | cell => overwrite s c id list cell

/-- Replace the current value. Nothing, or an empty list, deletes it. The items
of a list take its place in a list; as the value of a field the list itself
does. The new values are not walked. -/
def replace (s : Store) (c : Cursor) (new : Ref) : Except Fault Edited :=
  match c.containers.top? with
  | none => throw (.traversal .replaceRoot)
  | some id =>
    let cell := (s.cell? id).getD (.list [])
    match new, s.items? new with
    | .null, _ | _, some [] => c.delete s id cell
    | list, some items => c.splice s id list items cell
    | value, none => c.overwrite s id value cell

/-- Take out the item at an index, counted from the end if negative. -/
def takeItem (items : List Ref) (i : Int) : Except Fault (Ref × List Ref) :=
  if items.isEmpty then throw (.range .takeFromEmpty)
  else
    match place? items.length i with
    | none => throw (.range .take)
    | some k => return (items[k]?.getD .null, items.eraseIdx k)

/-- Take out the item behind the position; null if there is none. -/
def removeNext (s : Store) (c : Cursor) : Except Fault (Ref × Store) :=
  match c.siblings? s with
  | none => return (.null, s)
  | some (id, items) => do
    let i ← c.nextIndex
    if i < items.length then
      let (removed, items) ← takeItem items i
      return (removed, s.put id (.list items))
    else return (.null, s)

/-- Set a field of the current value. -/
def setField (s : Store) (c : Cursor) (key : String) (value : Ref) : Except Fault Store :=
  s.setField c.current key value

/-- Take a field out of the nearest ancestor. -/
def takeFromParent (s : Store) (c : Cursor) (key : String) : Except Fault (Ref × Store) :=
  match c.parent? with
  | none => throw (.noOperation .null "pop")
  | some id =>
    match s.cell? id with
    | some (.record fields) =>
      match fieldOf? fields key with
      | some ref => return (ref, s.put id (.record (dropField fields key)))
      | none => throw (.noKey (.str key))
    | _ => throw (.noOperation .list "pop")

end DocLint.Cursor

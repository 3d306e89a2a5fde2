import DocLint.Fault
/-!
# Stacks

Last in, first out. A cursor keeps the way from the root of a document to its
position on three of them. `toList` shows a stack from the bottom up, which is
also how stacks are built (`ofList`) and printed.
-/

namespace DocLint

/-- A stack. -/
structure Stack (α : Type) where
  /-- The values, the one pushed last in front. -/
  topFirst : List α
  deriving DecidableEq, Repr

namespace Stack

variable {α : Type}

/-- The stack without values. -/
def empty : Stack α := ⟨[]⟩

instance : Inhabited (Stack α) := ⟨empty⟩

/-- The stack that holds the values of a list, the last one on top. -/
def ofList (values : List α) : Stack α := ⟨values.reverse⟩

/-- The values from the bottom up. -/
def toList (s : Stack α) : List α := s.topFirst.reverse

/-- Put a value on top. -/
def push (s : Stack α) (value : α) : Stack α := ⟨value :: s.topFirst⟩

/-- The value on top. -/
def top? (s : Stack α) : Option α := s.topFirst.head?

/-- How many values there are. -/
def size (s : Stack α) : Nat := s.topFirst.length

/-- Take the value from the top; an empty stack has none. -/
def pop : Stack α → Except Fault (α × Stack α)
  | ⟨[]⟩ => throw (.range .takeFromEmpty)
  | ⟨value :: rest⟩ => return (value, ⟨rest⟩)

/-- Put a value in the place of the one on top; an empty stack has no such
place. -/
def replaceTop (s : Stack α) (value : α) : Except Fault (Stack α) :=
  match s.topFirst with
  | [] => throw (.range .write)
  | _ :: rest => return ⟨value :: rest⟩

/-- Do two stacks hold equal values in the same order? -/
def same (eq : α → α → Bool) (a b : Stack α) : Bool :=
  a.size == b.size && (a.topFirst.zip b.topFirst).all fun (x, y) => eq x y

/-- The text of a stack in messages, given the texts of its values. -/
def quoted (show? : α → String) (s : Stack α) : String :=
  "Stack([" ++ ", ".intercalate (s.toList.map show?) ++ "])"

@[simp] theorem toList_empty : (empty : Stack α).toList = [] := rfl

@[simp] theorem toList_ofList (values : List α) : (ofList values).toList = values := by
  simp [ofList, toList]

@[simp] theorem toList_push (s : Stack α) (value : α) :
    (s.push value).toList = s.toList ++ [value] := by
  simp [push, toList]

@[simp] theorem top?_push (s : Stack α) (value : α) : (s.push value).top? = some value := rfl

@[simp] theorem pop_push (s : Stack α) (value : α) : (s.push value).pop = .ok (value, s) := rfl

@[simp] theorem size_push (s : Stack α) (value : α) : (s.push value).size = s.size + 1 := rfl

@[simp] theorem length_toList (s : Stack α) : s.toList.length = s.size := by
  simp [toList, size]

end Stack

end DocLint

import DocLint.Number.Literal
import DocLint.Number.Shortest
import DocLint.Text.Quoted
/-!
# Document trees

A document is plain data: scalars, lists and records whose fields keep their
order. A **node** is a record with a `type` field that holds text; a **text
leaf** is a node of type `text` whose `content` is text. Everything else is
walked through or left alone, so no shape is refused here.

Besides the types this module holds the few things that hold of all values
alike: the name of their kind, whether they count as empty, and equality and
order by value (`1`, `1.0` and `true` are equal values).
-/

namespace DocLint

/-- A value without parts. -/
inductive Scalar
  | null
  | bool (value : Bool)
  | int (value : Int)
  | float (value : Binary64)
  | str (value : String)
  deriving DecidableEq, Repr

/-- A document tree. The fields of a record have different names. -/
inductive Tree
  | scalar (value : Scalar)
  | list (items : List Tree)
  | record (fields : List (String × Tree))
  deriving Repr

instance : Inhabited Tree := ⟨.scalar .null⟩

namespace Tree

@[match_pattern] abbrev null : Tree := .scalar .null
@[match_pattern] abbrev bool (b : Bool) : Tree := .scalar (.bool b)
@[match_pattern] abbrev int (i : Int) : Tree := .scalar (.int i)
@[match_pattern] abbrev float (x : Binary64) : Tree := .scalar (.float x)
@[match_pattern] abbrev str (s : String) : Tree := .scalar (.str s)

mutual
/-- Identity of trees: same shape, same scalars, same order of fields. -/
def decEq : (a b : Tree) → Decidable (a = b)
  | .scalar a, .scalar b =>
    if h : a = b then isTrue (by rw [h]) else isFalse (by simpa using h)
  | .list a, .list b =>
    match decEqItems a b with
    | isTrue h => isTrue (by rw [h])
    | isFalse h => isFalse (by simpa using h)
  | .record a, .record b =>
    match decEqFields a b with
    | isTrue h => isTrue (by rw [h])
    | isFalse h => isFalse (by simpa using h)
  | .scalar _, .list _ | .scalar _, .record _ | .list _, .scalar _
  | .list _, .record _ | .record _, .scalar _ | .record _, .list _ => isFalse (by simp)

/-- Identity of lists of trees. -/
def decEqItems : (a b : List Tree) → Decidable (a = b)
  | [], [] => isTrue rfl
  | a :: as, b :: bs =>
    match decEq a b, decEqItems as bs with
    | isTrue h, isTrue k => isTrue (by rw [h, k])
    | isFalse h, _ => isFalse (by simp [h])
    | _, isFalse k => isFalse (by simp [k])
  | [], _ :: _ | _ :: _, [] => isFalse (by simp)

/-- Identity of fields. -/
def decEqFields : (a b : List (String × Tree)) → Decidable (a = b)
  | [], [] => isTrue rfl
  | (k, a) :: as, (l, b) :: bs =>
    if hk : k = l then
      match decEq a b, decEqFields as bs with
      | isTrue h, isTrue t => isTrue (by rw [hk, h, t])
      | isFalse h, _ => isFalse (by simp [h])
      | _, isFalse t => isFalse (by simp [t])
    else isFalse (by simp [hk])
  | [], _ :: _ | _ :: _, [] => isFalse (by simp)
end

instance : DecidableEq Tree := decEq

end Tree

/-- The value of a field, by the first field of that name. -/
def fieldOf? {α : Type} (fields : List (String × α)) (key : String) : Option α :=
  (fields.find? (·.1 == key)).map (·.2)

theorem fieldOf?_cons {α : Type} (k key : String) (v : α) (rest : List (String × α)) :
    fieldOf? ((k, v) :: rest) key = if k == key then some v else fieldOf? rest key := by
  simp only [fieldOf?, List.find?_cons]
  split <;> simp_all

/-- The fields with `key` set to `value`: in its place if it is there, at the end
if not. -/
def putField {α : Type} (fields : List (String × α)) (key : String) (value : α) :
    List (String × α) :=
  match fields with
  | [] => [(key, value)]
  | (k, v) :: rest =>
    if k == key then (k, value) :: rest else (k, v) :: putField rest key value

/-- The fields without `key`. -/
def dropField {α : Type} (fields : List (String × α)) (key : String) : List (String × α) :=
  match fields with
  | [] => []
  | (k, v) :: rest => if k == key then rest else (k, v) :: dropField rest key

/-- The kinds of values that messages tell apart. -/
inductive Kind
  | null
  | bool
  | int
  | float
  | str
  | list
  | record
  deriving DecidableEq, Repr

/-- The name of a kind in messages. -/
def Kind.name : Kind → String
  | null => "NoneType"
  | bool => "bool"
  | int => "int"
  | float => "float"
  | str => "str"
  | list => "list"
  | record => "dict"

/-- The kind of a scalar. -/
def Scalar.kind : Scalar → Kind
  | null => .null
  | bool _ => .bool
  | int _ => .int
  | float _ => .float
  | str _ => .str

/-- Does a number equal zero? Both zeros do. -/
def Binary64.isZero (x : Binary64) : Bool :=
  match x.view with
  | .finite _ 0 _ => true
  | _ => false

/-- Does a scalar count as empty: null, false, zero or the empty text? -/
def Scalar.isEmpty : Scalar → Bool
  | null => true
  | bool b => !b
  | int i => i == 0
  | float x => x.isZero
  | str s => s == ""

namespace Tree

/-- The kind of a value. -/
def kind : Tree → Kind
  | .scalar s => s.kind
  | .list _ => .list
  | .record _ => .record

/-- Does a value count as empty: an empty scalar, or nothing inside? -/
def isEmpty : Tree → Bool
  | .scalar s => s.isEmpty
  | .list items => items.isEmpty
  | .record fields => fields.isEmpty

/-- The value of a field; `none` on anything but a record. -/
def field? (key : String) : Tree → Option Tree
  | .record fields => fieldOf? fields key
  | _ => none

/-- The type of a node; `none` on a value that is no node. -/
def nodeType? (t : Tree) : Option String :=
  match t.field? "type" with
  | some (.str s) => some s
  | _ => none

theorem nodeType?_eq_some {t : Tree} {type : String} :
    t.nodeType? = some type ↔ t.field? "type" = some (.str type) := by
  unfold nodeType?
  split
  · next h => simp [h]
  · next h => simpa using h type

/-- Is the value a record with a `type` that is text? -/
def isNode (t : Tree) : Bool := t.nodeType?.isSome

/-- The text of a text leaf; `none` on anything else. -/
def leafText? (t : Tree) : Option String :=
  match t.nodeType?, t.field? "content" with
  | some "text", some (.str s) => some s
  | _, _ => none

/-- Is the value a node of type `text` whose content is text? -/
def isTextLeaf (t : Tree) : Bool := t.leafText?.isSome

end Tree

/-! ## Values compared as numbers -/

/-- A number as messages and comparisons see it; truth values count as 0 and 1. -/
inductive Numeral
  | exact (value : Int)
  | approx (value : Binary64)
  deriving DecidableEq, Repr

/-- A scalar as a number. -/
def Scalar.numeral? : Scalar → Option Numeral
  | bool b => some (.exact (if b then 1 else 0))
  | int i => some (.exact i)
  | float x => some (.approx x)
  | _ => none

namespace Numeral

/-- Position on the number line: below everything, `num / 2 ^ shift`, or above
everything; `none` for what is not a number. -/
inductive Place
  | below
  | at (num : Int) (shift : Nat)
  | above

/-- Where a number stands. -/
def place? : Numeral → Option Place
  | .exact i => some (.at i 0)
  | .approx x =>
    match x.view with
    | .nan => none
    | .infinite negative => some (if negative then .below else .above)
    | .finite negative mantissa exponent =>
      let size : Int := mantissa * twoTo exponent.toNat
      some (.at (if negative then -size else size) (-exponent).toNat)

/-- Order on the number line. -/
def Place.lt : Place → Place → Bool
  | .below, .below => false
  | .below, _ => true
  | .at _ _, .below => false
  | .at a s, .at b t => a * twoTo t < b * twoTo s
  | .at _ _, .above => true
  | .above, _ => false

/-- Is `a` smaller than `b`? Nothing is smaller or larger than what is not a
number. -/
def lt (a b : Numeral) : Bool :=
  match a.place?, b.place? with
  | some p, some q => p.lt q
  | _, _ => false

/-- Are `a` and `b` the same number? What is not a number equals nothing. -/
def same (a b : Numeral) : Bool :=
  match a.place?, b.place? with
  | some p, some q => !p.lt q && !q.lt p
  | _, _ => false

end Numeral

/-- Equality of scalars by value: numbers of all kinds by their size. -/
def Scalar.same (a b : Scalar) : Bool :=
  match a.numeral?, b.numeral? with
  | some x, some y => x.same y
  | none, none => a == b
  | _, _ => false

namespace Tree

mutual
/-- Equality by value: lists by their items, records by their fields in any
order, scalars as `Scalar.same`. -/
def same : Tree → Tree → Bool
  | .scalar a, .scalar b => a.same b
  | .list a, .list b => sameItems a b
  | .record a, .record b => a.length == b.length && sameFields a b
  | _, _ => false

/-- Equality of lists by value. -/
def sameItems : List Tree → List Tree → Bool
  | [], [] => true
  | a :: as, b :: bs => same a b && sameItems as bs
  | _, _ => false

/-- Has every field a counterpart of equal value in `other`? -/
def sameFields : List (String × Tree) → List (String × Tree) → Bool
  | [], _ => true
  | (key, a) :: rest, other =>
    (match fieldOf? other key with
      | some b => same a b
      | none => false) && sameFields rest other
end

end Tree

/-! ## Values in messages

Every value has a text. Whether a message can hold it is another question: a whole
number of too many digits cannot be written out, and neither can anything it stands
in.
-/

/-- Can a scalar be written out? -/
def Scalar.isWritable : Scalar → Bool
  | int i => Literal.isWritable i
  | _ => true

namespace Tree

mutual
/-- Can a value be written out, with everything inside it? -/
def isWritable : Tree → Bool
  | .scalar s => s.isWritable
  | .list items => isWritableItems items
  | .record fields => isWritableFields fields

/-- `isWritable` for all items of a list. -/
def isWritableItems : List Tree → Bool
  | [] => true
  | t :: rest => t.isWritable && isWritableItems rest

/-- `isWritable` for all fields of a record. -/
def isWritableFields : List (String × Tree) → Bool
  | [] => true
  | (_, t) :: rest => t.isWritable && isWritableFields rest
end

theorem isWritableItems_iff {items : List Tree} :
    isWritableItems items = true ↔ ∀ t ∈ items, t.isWritable = true := by
  induction items with
  | nil => simp [isWritableItems]
  | cons t rest ih => simp [isWritableItems, ih]

theorem isWritableFields_iff {fields : List (String × Tree)} :
    isWritableFields fields = true ↔ ∀ f ∈ fields, f.2.isWritable = true := by
  induction fields with
  | nil => simp [isWritableFields]
  | cons f rest ih => simp [isWritableFields, ih]

end Tree

/-- The words for the numbers without digits, as messages spell them. -/
def numberWords : Shortest.Words := ⟨"nan", "inf"⟩

/-- A scalar as messages quote it. -/
def Scalar.quoted : Scalar → String
  | null => "None"
  | bool true => "True"
  | bool false => "False"
  | int i => toString i
  | float x => Shortest.render numberWords x
  | str s => Text.quoted s

namespace Tree

mutual
/-- A value as messages quote it: texts between marks, lists in brackets,
records in braces. -/
def quoted : Tree → String
  | .scalar s => s.quoted
  | .list items => "[" ++ ", ".intercalate (quotedItems items) ++ "]"
  | .record fields => "\x7b" ++ ", ".intercalate (quotedFields fields) ++ "\x7d"

/-- The items of a list, each quoted. -/
def quotedItems : List Tree → List String
  | [] => []
  | t :: rest => quoted t :: quotedItems rest

/-- The fields of a record, each quoted. -/
def quotedFields : List (String × Tree) → List String
  | [] => []
  | (key, t) :: rest => (Text.quoted key ++ ": " ++ quoted t) :: quotedFields rest
end

/-- A value as messages show it on its own: text as it is, all else quoted. -/
def text : Tree → String
  | .str s => s
  | t => t.quoted

@[simp] theorem text_str (s : String) : text (.str s) = s := rfl

end Tree

end DocLint

import DocLint.Store
/-!
# Paths

A path says where something stands in a document: the indexes and keys on the
way down from the root. The objects of a document are told apart by the paths at
which they stood when the document was laid out in a store; they keep that name
however they are moved afterwards. Objects that were made later have none and
are shown by their value.
-/

namespace DocLint

/-- One step down: to an item of a list or to a field of a record. An index may
be negative. -/
inductive Step
  | index (value : Int)
  | key (name : String)
  deriving DecidableEq, Repr

/-- A step as a value. -/
def Step.toScalar : Step → Scalar
  | index value => .int value
  | key name => .str name

/-- The steps from the root down. -/
abbrev Path := List Step

mutual
/-- The paths of the lists and records of a tree, in the order in which a store
numbers them: the parts from left to right, then the whole. -/
def Tree.places : Tree → List Path
  | .scalar _ => []
  | .list items => placesOfItems 0 items ++ [[]]
  | .record fields => placesOfFields fields ++ [[]]

/-- The paths of the objects in a list, from the item with number `index` on. -/
def Tree.placesOfItems (index : Nat) : List Tree → List Path
  | [] => []
  | t :: rest => t.places.map (.index index :: ·) ++ placesOfItems (index + 1) rest

/-- The paths of the objects in the fields of a record. -/
def Tree.placesOfFields : List (String × Tree) → List Path
  | [] => []
  | (key, t) :: rest => t.places.map (.key key :: ·) ++ placesOfFields rest
end

/-- How reports show what stands in a place. -/
inductive Mention
  /-- An object of the document as it was at first. -/
  | place (path : Path)
  /-- Anything else. -/
  | value (tree : Tree)

/-- How reports show what stands in a place, where object `i` first stood at
path `i` of `places`. -/
def Store.mention (s : Store) (places : Array Path) (ref : Ref) : Mention :=
  match ref with
  | .scalar value => .value (.scalar value)
  | .object id =>
    match places[id]? with
    | some path => .place path
    | none => .value (s.tree ref)

end DocLint

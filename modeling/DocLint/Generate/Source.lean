import DocLint.Fault
/-!
# Sources of chance

Random documents are made by drawing numbers from a **source**. A draw is a whole
number below `2 ^ 31`; all other choices are made from draws. What is made depends
on the source only through its draws, so a law that holds for every source holds
for all that can ever be made.

`Seeded` is the source for reproducible runs: a linear congruence modulo `2 ^ 64`
of which the upper bits are shown.
-/

namespace DocLint.Generate

/-- A state from which numbers can be drawn. -/
class Source (σ : Type) where
  draw : σ → Nat × σ

/-- Something made by chance. -/
abbrev Gen (σ : Type) := StateM σ

variable {σ : Type} [Source σ]

/-- The number of different draws. -/
def drawLimit : Nat := twoTo 31

/-- Draw a number. -/
def draw : Gen σ Nat := modifyGet Source.draw

/-- True in `tenths` of ten cases. -/
def chance (tenths : Nat) : Gen σ Bool := do
  return (← draw) * 10 < tenths * drawLimit

/-- A number from `first` to `last`. -/
def between (first last : Nat) : Gen σ Nat := do
  return first + (← draw) % (last + 1 - first)

/-- One of several things, of which `head` is the first. -/
def oneOf {α : Type} (head : α) (tail : List α) : Gen σ α := do
  return (head :: tail)[(← draw) % (tail.length + 1)]?.getD head

/-- As many things as asked for, made one after the other. -/
def times {α : Type} (make : Gen σ α) : Nat → Gen σ (List α)
  | 0 => return []
  | n + 1 => do
    let first ← make
    return first :: (← times make n)

/-- Up to `most` things. -/
def upTo {α : Type} (most : Nat) (make : Gen σ α) : Gen σ (List α) := do
  times make (← between 0 most)

/-- A source that a number starts. -/
structure Seeded where
  state : UInt64
  deriving DecidableEq, Repr

namespace Seeded

/-- The source that a number starts. -/
def ofInt (seed : Int) : Seeded := ⟨UInt64.ofNat (seed % twoTo 64).toNat⟩

/-- The next state. -/
def next (s : Seeded) : Seeded := ⟨s.state * 6364136223846793005 + 1442695040888963407⟩

instance : Source Seeded where
  draw s := ((s.next.state >>> 33).toNat, s.next)

end Seeded

end DocLint.Generate

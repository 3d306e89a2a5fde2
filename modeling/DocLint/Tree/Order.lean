import DocLint.Fault
/-!
# Values in order, and values as whole numbers

Numbers of all kinds are ordered by size, texts by their characters, lists by
their first items that differ. Other pairs of values have no order, and asking
for it is a fault. A whole number may also be written in text, and a number with
a fraction loses it.
-/

namespace DocLint

/-- The ways to ask for an order. -/
inductive Comparison
  | less
  | greater
  deriving DecidableEq, Repr

/-- How a comparison is written. -/
def Comparison.symbol : Comparison → String
  | less => "<"
  | greater => ">"

/-- A comparison, given the order "less". -/
def Comparison.holds {α : Type} (less? : α → α → Bool) (a b : α) : Comparison → Bool
  | less => less? a b
  | greater => less? b a

namespace Tree

/-- Compare two scalars. -/
def compareScalars (how : Comparison) (a b : Scalar) : Except Fault Bool :=
  match a, b with
  | .str x, .str y => return how.holds (fun x y => decide (x < y)) x y
  | a, b =>
    match a.numeral?, b.numeral? with
    | some x, some y => return how.holds Numeral.lt x y
    | _, _ => throw (.type (.noOrder how.symbol a.kind b.kind))

mutual
/-- Compare two values. -/
def compare (how : Comparison) : Tree → Tree → Except Fault Bool
  | .scalar a, .scalar b => compareScalars how a b
  | .list as, .list bs => compareItems how as bs
  | a, b => throw (.type (.noOrder how.symbol a.kind b.kind))

/-- Compare two lists by their first items that differ; of two lists without
such items the shorter one is less. -/
def compareItems (how : Comparison) : List Tree → List Tree → Except Fault Bool
  | a :: as, b :: bs => if a.same b then compareItems how as bs else compare how a b
  | as, bs => return how.holds (fun x y => decide (x < y)) as.length bs.length
end

/-- The smaller of two values, `a` if neither is. -/
def least (a b : Tree) : Except Fault Tree := return if ← compare .less b a then b else a

/-- The larger of two values, `a` if neither is. -/
def greatest (a b : Tree) : Except Fault Tree := return if ← compare .greater b a then b else a

/-- The whole number that a value stands for. -/
def whole : Tree → Except Fault Int
  | .int i => return i
  | .bool b => return if b then 1 else 0
  | .float x =>
    match x.view with
    | .nan => throw .nanToInt
    | .infinite _ => throw .infinityToInt
    | .finite .. => return x.truncate?.getD 0
  | .str s =>
    match Literal.read s with
    | .ok i => return i
    | .error fault => throw (.literal fault)
  | t => throw (.type (.notANumber t.kind))

@[simp] theorem compare_int (how : Comparison) (a b : Int) :
    compare how (.int a) (.int b) = .ok (how.holds (fun x y => decide (x < y)) a b) := by
  cases how <;>
    simp [compare, compareScalars, Scalar.numeral?, Comparison.holds, Numeral.lt,
      Numeral.place?, Numeral.Place.lt, pure, Except.pure]

end Tree

end DocLint

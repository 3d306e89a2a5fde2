import DocLint.Number.Literal
import DocLint.Rule.Error
/-!
# Faults

Everything that can go wrong while documents are walked, edited, matched and
linted, by cause. Faults of one family share a `label`; `message` says what
happened. A fault ends the operation in which it arises and leaves the state as
it was at that moment.
-/

namespace DocLint

/-- A move or an edit that the position in the tree does not allow. -/
inductive TraversalError
  | replaceRoot
  | parentOfRoot
  | noPreviousSibling
  deriving DecidableEq, Repr

/-- A place that a list does not have. -/
inductive RangeError
  /-- A place to be written or deleted. -/
  | write
  /-- A place to be read. -/
  | read
  /-- A place to be taken out. -/
  | take
  /-- The last element of an empty list. -/
  | takeFromEmpty
  /-- A group of a match. -/
  | group
  deriving DecidableEq, Repr

/-- A value of the wrong kind. -/
inductive TypeError
  /-- A field is asked of a value that has no parts. -/
  | noParts (kind : Kind)
  /-- A list is indexed by something other than a number. -/
  | listIndex (kind : Kind)
  /-- A field is asked of text. -/
  | textIndex
  /-- A field is set on a value that takes none. -/
  | noAssignment (kind : Kind)
  /-- A key is counted on by one. -/
  | keyPlusOne
  /-- The missing index is counted on by one. -/
  | nothingPlusOne
  /-- Two values have no order. -/
  | noOrder (symbol : String) (left right : Kind)
  | unsupportedSelector (kind : Kind)
  | unsupportedCombinator (name : String)
  | unsupportedResult (rule : Tree) (kind : Kind)
  /-- A value does not stand for a number. -/
  | notANumber (kind : Kind)
  /-- A text is to be joined from something else. -/
  | joinItem (index : Nat) (kind : Kind)
  /-- A bound of a piece of text is no whole number. -/
  | sliceBound
  /-- A value has no items to go through. -/
  | notIterable (kind : Kind)
  deriving DecidableEq, Repr

/-- An assertion about a lint run that does not hold. -/
inductive CheckError
  | roundTrip (source formatted : String)
  | stateMoved
  | wrongEnd
  | visitCount
  | recordsChanged
  | textChanged
  deriving DecidableEq, Repr

/-- What went wrong. -/
inductive Fault
  | selector (fault : SelectorError)
  | rule (fault : RuleError)
  | traversal (fault : TraversalError)
  | range (fault : RangeError)
  | type (fault : TypeError)
  /-- A record has no such field, or a table no such entry. -/
  | noKey (key : Scalar)
  /-- A value of this kind does not have the operation. -/
  | noOperation (kind : Kind) (operation : String)
  | literal (fault : LiteralError)
  /-- An infinity has no whole part. -/
  | infinityToInt
  /-- What is not a number has no whole part. -/
  | nanToInt
  /-- A setting is no number, or a negative one. -/
  | setting (name : String) (value : Tree)
  /-- A regular expression goes beyond what can be asked for. -/
  | regexLimit (fault : Regex.Error)
  | check (fault : CheckError)
  /-- A range of no numbers. -/
  | emptyRange
  /-- A text would have this many characters. -/
  | tooLong (size : Nat)
  /-- A visitor keeps sending the walk back. -/
  | endless
  /-- A document to be written out is inside itself. -/
  | circular
  deriving DecidableEq, Repr

namespace TraversalError

/-- The words for a fault. -/
def message : TraversalError → String
  | replaceRoot => "Can't replace the root of the tree"
  | parentOfRoot => "Can't go to the parent of the root node"
  | noPreviousSibling => "Node has no previous sibling"

end TraversalError

/-- The words for a fault. -/
def RangeError.message : RangeError → String
  | write => "list assignment index out of range"
  | read => "list index out of range"
  | take => "pop index out of range"
  | takeFromEmpty => "pop from empty list"
  | group => "no such group"

/-- The words for a fault. -/
def TypeError.message : TypeError → String
  | noParts kind => "'" ++ kind.name ++ "' object is not subscriptable"
  | listIndex kind => "list indices must be integers or slices, not " ++ kind.name
  | textIndex => "string indices must be integers, not 'str'"
  | noAssignment kind => "'" ++ kind.name ++ "' object does not support item assignment"
  | keyPlusOne => "can only concatenate str (not \"int\") to str"
  | nothingPlusOne => "unsupported operand type(s) for +: 'NoneType' and 'int'"
  | noOrder symbol left right =>
    "'" ++ symbol ++ "' not supported between instances of '" ++ left.name ++ "' and '" ++
      right.name ++ "'"
  | unsupportedSelector kind => "Unsupported selector: " ++ kind.name
  | unsupportedCombinator name => "Unsupported combinator: " ++ Text.quoted name
  | unsupportedResult rule kind =>
    "Lint rule " ++ rule.quoted ++ " returned unsupported result: " ++ kind.name
  | notANumber kind =>
    "int() argument must be a string, a bytes-like object or a real number, not '" ++
      kind.name ++ "'"
  | joinItem index kind =>
    "sequence item " ++ toString index ++ ": expected str instance, " ++ kind.name ++ " found"
  | notIterable kind => "'" ++ kind.name ++ "' object is not iterable"
  | sliceBound => "slice indices must be integers or None or have an __index__ method"

/-- The words for a failed assertion. -/
def CheckError.message : CheckError → String
  | roundTrip source formatted =>
    Text.quoted source ++ " formats as " ++ Text.quoted formatted ++ " which parses differently"
  | stateMoved => "matching moved the traversal state"
  | wrongEnd => "match does not end at the current node"
  | visitCount => ""
  | recordsChanged => "highlighting changed the records"
  | textChanged => "highlighting changed the text"

namespace Fault

/-- The words for a fault. -/
def message : Fault → String
  | selector fault => fault.message
  | rule fault => fault.message
  | traversal fault => fault.message
  | range fault => fault.message
  | type fault => fault.message
  | noKey key => key.quoted
  | noOperation kind operation =>
    "'" ++ kind.name ++ "' object has no attribute " ++ Text.quoted operation
  | literal fault => fault.message
  | infinityToInt => "cannot convert float infinity to integer"
  | nanToInt => "cannot convert float NaN to integer"
  | setting name value =>
    name ++ " must be a non-negative integer, got " ++ value.quoted
  | regexLimit fault => fault.message ""
  | check fault => fault.message
  | tooLong size =>
    if size < twoTo 63 then "" else "cannot fit 'int' into an index-sized integer"
  | emptyRange => "integer modulo by zero"
  | endless => "the walk does not come to an end"
  | circular => "Circular reference detected"

/-- The name of the family of a fault, as reports show it. -/
def label : Fault → String
  | selector _ => "SelectorError"
  | rule _ => "RuleError"
  | traversal _ => "TraversalError"
  | range _ => "IndexError"
  | type _ => "TypeError"
  | noKey _ => "KeyError"
  | noOperation _ _ => "AttributeError"
  | literal _ | setting _ _ | nanToInt | circular => "ValueError"
  | infinityToInt => "OverflowError"
  | tooLong size => if size < twoTo 63 then "MemoryError" else "OverflowError"
  | regexLimit .repertoires | regexLimit (.rounds _) => "ValueError"
  | regexLimit _ => "OverflowError"
  | check _ => "AssertionError"
  | emptyRange => "ZeroDivisionError"
  | endless => "RecursionError"

/-- A fault whose message names a value, as it is reported: if the value cannot be
written out, that is the fault. -/
def about (value : Tree) (fault : Fault) : Fault :=
  if value.isWritable then fault else .literal .unwritable

end Fault

namespace Tree

/-- Write a value out as messages quote it. -/
def written (t : Tree) : Except Fault String :=
  if t.isWritable then return t.quoted else throw (.literal .unwritable)

/-- Write a value out as messages show it on its own. -/
def shown (t : Tree) : Except Fault String :=
  if t.isWritable then return t.text else throw (.literal .unwritable)

variable {t : Tree}

theorem shown_eq_ok (h : t.isWritable = true) : t.shown = .ok t.text := if_pos h

theorem shown_eq_error (h : ¬ t.isWritable = true) : t.shown = .error (.literal .unwritable) :=
  if_neg h

end Tree

/-! ### Computations that may fail -/

section Steps

variable {ε α β : Type} {m : Except ε α} {f : α → Except ε β}

theorem except_bind_eq_ok {b : β} (h : (m >>= f) = .ok b) : ∃ a, m = .ok a ∧ f a = .ok b := by
  cases m with
  | error e => contradiction
  | ok a => exact ⟨a, rfl, h⟩

theorem except_bind_eq_error {e : ε} (h : (m >>= f) = .error e) :
    m = .error e ∨ ∃ a, m = .ok a ∧ f a = .error e := by
  cases m with
  | error e' => exact .inl (congrArg Except.error (Except.error.inj h))
  | ok a => exact .inr ⟨a, rfl, h⟩

end Steps

/-- A computation that may fail, among those that also keep a state: it leaves
the state alone. -/
instance {σ : Type} : MonadLift (Except Fault) (EStateM Fault σ) where
  monadLift r :=
    match r with
    | .ok value => pure value
    | .error fault => throw fault

end DocLint

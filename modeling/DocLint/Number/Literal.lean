import DocLint.Text.Blank
import DocLint.Text.Number
import DocLint.Text.Quoted
/-!
# Whole numbers written in text

A whole number may have blanks around it, a sign, digits of any decimal script,
and single underscores between digits. The information separators are no blanks
here. Numbers of more than `maxDigits` digits are neither read nor written.
-/

namespace DocLint

/-- Why a text is no whole number, or a whole number has no text. -/
inductive LiteralError
  | malformed (text : String)
  | tooManyDigits (count : Nat)
  /-- A number that is to be written has too many digits. -/
  | unwritable
  deriving DecidableEq, Repr

namespace Literal

/-- The longest number that is read or written, in digits. -/
def maxDigits : Nat := 4300

/-- Has a number few enough digits to be written? -/
def isWritable (i : Int) : Bool := (Nat.toDigits 10 i.natAbs).length ≤ maxDigits

/-- The blanks that may stand around a number. -/
def isPadding (c : Char) : Bool := Text.isBlank c && !('\x1c' ≤ c && c ≤ '\x1f')

/-- The text without the padding around it. -/
def strip (cs : List Char) : List Char :=
  ((cs.dropWhile isPadding).reverse.dropWhile isPadding).reverse

/-- The digits of a number without sign; every underscore stands between two. -/
def digits? : List Char → Option (List Nat)
  | [] => none
  | [c] => (Text.decimalValue? c).map ([·])
  | c :: '_' :: rest => do
    let d ← Text.decimalValue? c
    let ds ← digits? rest
    return d :: ds
  | c :: rest => do
    let d ← Text.decimalValue? c
    let ds ← digits? rest
    return d :: ds

/-- The number that digits stand for. -/
def value (digits : List Nat) : Nat := digits.foldl (fun n d => n * 10 + d) 0

/-- Sign and digits of a text. -/
def split (cs : List Char) : Bool × List Char :=
  match strip cs with
  | '-' :: rest => (true, rest)
  | '+' :: rest => (false, rest)
  | rest => (false, rest)

/-- Read a whole number. -/
def read (s : String) : Except LiteralError Int :=
  let (negative, unsigned) := split s.toList
  match digits? unsigned with
  | none => .error (.malformed s)
  | some digits =>
    if maxDigits < digits.length then .error (.tooManyDigits digits.length)
    else
      let size : Int := value digits
      .ok (if negative then -size else size)

end Literal

/-- The message of a failure; only the start of a long text is shown. -/
def LiteralError.message : LiteralError → String
  | malformed text =>
    "invalid literal for int() with base 10: " ++
      String.ofList ((Text.quoted text).toList.take 200)
  | tooManyDigits count =>
    "Exceeds the limit (" ++ toString Literal.maxDigits ++
      " digits) for integer string conversion: value has " ++ toString count ++
      " digits; use sys.set_int_max_str_digits() to increase the limit"
  | unwritable =>
    "Exceeds the limit (" ++ toString Literal.maxDigits ++
      " digits) for integer string conversion; " ++
      "use sys.set_int_max_str_digits() to increase the limit"

end DocLint

import DocLint.Tree
/-!
# Reading JSON

`Json.read` turns JSON text into a document tree. Records keep the order in
which their keys first appear, and a repeated key takes its last value. Besides
the standard grammar the words `NaN`, `Infinity` and `-Infinity` are accepted
as numbers. Numbers with a fraction or an exponent are double-precision, all
others are whole numbers of any size up to `maxDigits` digits.

A failure says what was expected and where: the reader hands back the text that
is left, and `Json.read` turns its length into a position.
-/

namespace DocLint.Json

/-- Why a text is no JSON value. -/
inductive Cause
  | byteOrderMark
  | noValue
  | noPropertyName
  | noColon
  | noComma
  | unterminatedText
  | controlCharacter
  | badEscape
  | badCodeEscape
  | extraData
  | tooManyDigits (count : Nat)
  deriving DecidableEq, Repr

/-- The longest whole number that is read, in digits. -/
def maxDigits : Nat := 4300

/-- A failure, before its position is known: the text left at that point. -/
structure Failure where
  cause : Cause
  left : List Char

/-- A failure at a position: `offset` and `column` count characters, `offset`
from zero, `line` and `column` from one. -/
structure Error where
  cause : Cause
  offset : Nat
  line : Nat
  column : Nat
  deriving DecidableEq, Repr

/-- The words for a cause. -/
def Cause.message : Cause → String
  | byteOrderMark => "Unexpected UTF-8 BOM (decode using utf-8-sig)"
  | noValue => "Expecting value"
  | noPropertyName => "Expecting property name enclosed in double quotes"
  | noColon => "Expecting ':' delimiter"
  | noComma => "Expecting ',' delimiter"
  | unterminatedText => "Unterminated string starting at"
  | controlCharacter => "Invalid control character at"
  | badEscape => "Invalid \\escape"
  | badCodeEscape => "Invalid \\uXXXX escape"
  | extraData => "Extra data"
  | tooManyDigits count =>
    "Exceeds the limit (" ++ toString maxDigits ++ " digits) for integer string conversion: " ++
      "value has " ++ toString count ++
      " digits; use sys.set_int_max_str_digits() to increase the limit"

/-- The message of a failure; a number that is too long is not a matter of place. -/
def Error.message (e : Error) : String :=
  match e.cause with
  | .tooManyDigits _ => e.cause.message
  | cause =>
    cause.message ++ ": line " ++ toString e.line ++ " column " ++ toString e.column ++
      " (char " ++ toString e.offset ++ ")"

/-- The position at which `left` remains of `source`. -/
def Failure.locate (source : List Char) (f : Failure) : Error :=
  let passed := source.take (source.length - f.left.length)
  let lastLine := (passed.reverse.takeWhile (· != '\n')).length
  { cause := f.cause
    offset := passed.length
    line := passed.count '\n' + 1
    column := lastLine + 1 }

abbrev Reader (α : Type) := List Char → Except Failure (α × List Char)

/-- The blanks that JSON knows. -/
def isSpace (c : Char) : Bool := c == ' ' || c == '\t' || c == '\n' || c == '\r'

/-- The text behind leading blanks. -/
def skipSpace (cs : List Char) : List Char := cs.dropWhile isSpace

/-! ## Numbers -/

/-- The decimal digits at the front, and the rest. -/
def spanDigits (cs : List Char) : List Char × List Char := cs.span Char.isDigit

/-- The number that decimal digits stand for. -/
def digitsValue (cs : List Char) : Nat :=
  cs.foldl (fun n c => n * 10 + (c.toNat - '0'.toNat)) 0

/-- The fraction at the front, if a point and a digit stand there. -/
def spanFraction (cs : List Char) : Option (List Char × List Char) :=
  match cs with
  | '.' :: c :: rest => if c.isDigit then some (spanDigits (c :: rest)) else none
  | _ => none

/-- The exponent at the front, if it has a digit. -/
def spanExponent (cs : List Char) : Option (Int × List Char) :=
  match cs with
  | e :: rest =>
    if e == 'e' || e == 'E' then
      let (negative, rest) := match rest with
        | '-' :: more => (true, more)
        | '+' :: more => (false, more)
        | _ => (false, rest)
      match spanDigits rest with
      | ([], _) => none
      | (digits, rest) =>
        let size : Int := digitsValue digits
        some (if negative then -size else size, rest)
    else none
  | [] => none

/-- The digits before a point: a zero stands alone. -/
def spanWhole (cs : List Char) : Option (List Char × List Char) :=
  match cs with
  | '0' :: rest => some (['0'], rest)
  | c :: _ => if c.isDigit then some (spanDigits cs) else none
  | [] => none

/-- A number behind its sign. -/
def readUnsigned (negative : Bool) (whole rest : List Char) :
    Except Failure (Tree × List Char) :=
  let fraction := spanFraction rest
  let behind := match fraction with
    | some (_, more) => more
    | none => rest
  let exponent := spanExponent behind
  if fraction.isNone && exponent.isNone then
    if maxDigits < whole.length then .error ⟨.tooManyDigits whole.length, rest⟩
    else
      let size : Int := digitsValue whole
      .ok (.int (if negative then -size else size), rest)
  else
    let places := match fraction with
      | some (digits, _) => digits
      | none => []
    let (power, rest) := exponent.getD (0, behind)
    let number :=
      Binary64.ofDecimal negative (digitsValue (whole ++ places)) (power - places.length)
    .ok (.float number, rest)

/-- A number. -/
def readNumber : Reader Tree := fun cs =>
  let (negative, unsigned) := match cs with
    | '-' :: rest => (true, rest)
    | _ => (false, cs)
  match spanWhole unsigned with
  | some (whole, rest) => readUnsigned negative whole rest
  | none => .error ⟨.noValue, cs⟩

/-! ## Texts -/

/-- The value of a hexadecimal digit. -/
def hexValue? (c : Char) : Option Nat :=
  if c.isDigit then some (c.toNat - '0'.toNat)
  else if 'a' ≤ c && c ≤ 'f' then some (c.toNat - 'a'.toNat + 10)
  else if 'A' ≤ c && c ≤ 'F' then some (c.toNat - 'A'.toNat + 10)
  else none

/-- The number that four hexadecimal digits stand for. -/
def hexQuad? : List Char → Option Nat
  | [a, b, c, d] => do
    let a ← hexValue? a
    let b ← hexValue? b
    let c ← hexValue? c
    let d ← hexValue? d
    return ((a * 16 + b) * 16 + c) * 16 + d
  | _ => none

/-- The character of a code unit, or of a high and a low one; half a pair has no
character and reads as the replacement character. -/
def unitChar (unit : Nat) : Char :=
  if 0xD800 ≤ unit && unit < 0xE000 then '\uFFFD' else Char.ofNat unit

/-- The letters that may follow a backslash, and what they stand for. -/
def simpleEscape? : Char → Option Char
  | '"' => some '"'
  | '\\' => some '\\'
  | '/' => some '/'
  | 'b' => some '\x08'
  | 'f' => some '\x0C'
  | 'n' => some '\n'
  | 'r' => some '\r'
  | 't' => some '\t'
  | _ => none

/-- The rest of an escape by code: `cs` follows the `u`, `unitAt` starts with it.
Something has to follow the four digits, if only the closing mark. A second
escape joins a high half when it is the low half. -/
def readCode (unitAt cs : List Char) : Except Failure (Char × List Char) := do
  if (cs.drop 4).isEmpty then throw ⟨.badCodeEscape, unitAt⟩
  let some unit := hexQuad? (cs.take 4) | throw ⟨.badCodeEscape, unitAt⟩
  let rest := cs.drop 4
  if 0xD800 ≤ unit && unit < 0xDC00 && !(rest.drop 6).isEmpty then
    match rest with
    | '\\' :: 'u' :: more =>
      match hexQuad? (more.take 4) with
      | none => throw ⟨.badCodeEscape, 'u' :: more⟩
      | some low =>
        if 0xDC00 ≤ low && low < 0xE000 then
          return (Char.ofNat (0x10000 + (unit - 0xD800) * 0x400 + (low - 0xDC00)), more.drop 4)
        else return (unitChar unit, rest)
    | _ => return (unitChar unit, rest)
  else return (unitChar unit, rest)

/-- A text behind its opening mark; `start` begins with that mark. `fuel` bounds
the number of characters. -/
def readText (start : List Char) : Nat → List Char → Except Failure (List Char × List Char)
  | 0, _ => .error ⟨.unterminatedText, start⟩
  | fuel + 1, cs =>
    match cs with
    | [] => .error ⟨.unterminatedText, start⟩
    | '"' :: rest => .ok ([], rest)
    | ['\\'] => .error ⟨.unterminatedText, start⟩
    | '\\' :: 'u' :: rest => do
      let (c, rest) ← readCode ('u' :: rest) rest
      let (more, rest) ← readText start fuel rest
      return (c :: more, rest)
    | '\\' :: e :: rest =>
      match simpleEscape? e with
      | none => .error ⟨.badEscape, cs⟩
      | some c => do
        let (more, rest) ← readText start fuel rest
        return (c :: more, rest)
    | c :: rest =>
      if c.toNat < 0x20 then .error ⟨.controlCharacter, cs⟩
      else do
        let (more, rest) ← readText start fuel rest
        return (c :: more, rest)

/-- A text from its opening mark on. -/
def readString (fuel : Nat) : Reader String := fun cs => do
  let (text, rest) ← readText cs fuel (cs.drop 1)
  return (String.ofList text, rest)

/-! ## Values -/

/-- The words that stand for values. -/
def wordValues : List (List Char × Tree) :=
  [("null".toList, .null), ("true".toList, .bool true), ("false".toList, .bool false),
    ("NaN".toList, .float .notANumber), ("Infinity".toList, .float (.infinity false)),
    ("-Infinity".toList, .float (.infinity true))]

/-- The value of the word at the front. -/
def readWord? (cs : List Char) : Option (Tree × List Char) :=
  (wordValues.find? fun w => w.1.isPrefixOf cs).map fun w => (w.2, cs.drop w.1.length)

mutual
/-- A value. `fuel` bounds the nesting and the number of parts. -/
def readValue : Nat → Reader Tree
  | 0, cs => .error ⟨.noValue, cs⟩
  | fuel + 1, cs =>
    match cs with
    | '"' :: _ => do
      let (text, rest) ← readString fuel cs
      return (.str text, rest)
    | '\x7b' :: rest =>
      match skipSpace rest with
      | '\x7d' :: rest => .ok (.record [], rest)
      | rest => do
        let (fields, rest) ← readFields fuel [] rest
        return (.record fields, rest)
    | '[' :: rest =>
      match skipSpace rest with
      | ']' :: rest => .ok (.list [], rest)
      | rest => do
        let (items, rest) ← readItems fuel rest
        return (.list items, rest)
    | _ =>
      match readWord? cs with
      | some found => .ok found
      | none => readNumber cs

/-- The items of a list from the first on, and its closing bracket. -/
def readItems : Nat → Reader (List Tree)
  | 0, cs => .error ⟨.noValue, cs⟩
  | fuel + 1, cs => do
    let (item, rest) ← readValue fuel cs
    match skipSpace rest with
    | ']' :: rest => return ([item], rest)
    | ',' :: rest =>
      let (items, rest) ← readItems fuel (skipSpace rest)
      return (item :: items, rest)
    | rest => throw ⟨.noComma, rest⟩

/-- The fields of a record from the next on, and its closing brace; `fields` are
those already read. -/
def readFields : Nat → List (String × Tree) → Reader (List (String × Tree))
  | 0, _, cs => .error ⟨.noPropertyName, cs⟩
  | fuel + 1, fields, cs =>
    match cs with
    | '"' :: _ => do
      let (key, rest) ← readString fuel cs
      match skipSpace rest with
      | ':' :: rest =>
        let (value, rest) ← readValue fuel (skipSpace rest)
        let fields := putField fields key value
        match skipSpace rest with
        | '\x7d' :: rest => return (fields, rest)
        | ',' :: rest => readFields fuel fields (skipSpace rest)
        | rest => throw ⟨.noComma, rest⟩
      | rest => throw ⟨.noColon, rest⟩
    | _ => .error ⟨.noPropertyName, cs⟩
end

/-- The value that a text holds, with blanks around it. -/
def readAll (cs : List Char) : Except Failure Tree := do
  if cs.head? == some '\uFEFF' then throw ⟨.byteOrderMark, cs⟩
  let (value, rest) ← readValue (cs.length + 1) (skipSpace cs)
  match skipSpace rest with
  | [] => return value
  | rest => throw ⟨.extraData, rest⟩

/-- Read a JSON text. -/
def read (s : String) : Except Error Tree :=
  let cs := s.toList
  match readAll cs with
  | .ok value => .ok value
  | .error failure => .error (failure.locate cs)

end DocLint.Json

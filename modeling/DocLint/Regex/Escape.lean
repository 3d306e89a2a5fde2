import DocLint.Regex.Reading
/-!
# Escapes

What a backslash and the character behind it stand for: a code point, a class of
characters, an anchor, or what a group has matched. Inside a set only the first
two can be written, and the letter `b` is a control character there.
-/

namespace DocLint.Regex.Parse

/-- The value of a hexadecimal digit. -/
def hexDigit? (c : Char) : Option Nat :=
  if '0' ≤ c && c ≤ '9' then some (c.toNat - '0'.toNat)
  else if 'a' ≤ c && c ≤ 'f' then some (c.toNat - 'a'.toNat + 10)
  else if 'A' ≤ c && c ≤ 'F' then some (c.toNat - 'A'.toNat + 10)
  else none

/-- Is `c` one of `0` to `9`? -/
def isDigit (c : Char) : Bool := '0' ≤ c && c ≤ '9'

/-- Is `c` one of `0` to `7`? -/
def isOctal (c : Char) : Bool := '0' ≤ c && c ≤ '7'

/-- Is `c` a letter of ASCII? -/
def isAsciiLetter (c : Char) : Bool := ('a' ≤ c && c ≤ 'z') || ('A' ≤ c && c ≤ 'Z')

/-- The number that digits stand for in a base. -/
def valueIn (base : Nat) (cs : List Char) : Nat :=
  cs.foldl (fun n c => n * base + (hexDigit? c).getD 0) 0

/-- The code points of control characters by letter. -/
def controlCode? : Char → Option Nat
  | 'a' => some 7
  | 'b' => some 8
  | 'f' => some 12
  | 'n' => some 10
  | 'r' => some 13
  | 't' => some 9
  | 'v' => some 11
  | '\\' => some 92
  | _ => none

/-- The classes that have a letter. -/
def category? : Char → Option (Category × Bool)
  | 'd' => some (.digit, false)
  | 'D' => some (.digit, true)
  | 's' => some (.space, false)
  | 'S' => some (.space, true)
  | 'w' => some (.word, false)
  | 'W' => some (.word, true)
  | _ => none

/-- A code point in exactly `count` hexadecimal digits behind the piece `p`. -/
def hexCode (p : Piece) (count : Nat) : Parse Nat := do
  let digits ← takeWhile (fun c => (hexDigit? c).isSome) count
  let written := p.text ++ String.ofList digits
  if digits.length != count then failAt (.incompleteEscape written) p.position
  let code := valueIn 16 digits
  if 0x10FFFF < code then failAt (.badEscape written) p.position
  return code

/-- The code point of a character that is called by its name at `p`. -/
def codeCalled (p : Piece) (name : String) : Parse Nat := do
  match (← get).characters.called? name with
  | some c => return c.toNat
  | none => failAt (.undefinedCharacter name) p.position

/-- A character by name. -/
def namedCode (p : Piece) : Parse Nat := do
  if !(← accept '\x7b') then fail (.missing "\x7b") 0
  codeCalled p (← takeName '\x7d' "character name")

/-- An octal code point of up to three digits, the first of which is in `p`. -/
def octalCode (p : Piece) (more : List Char) : Parse Nat := do
  let code := valueIn 8 (p.char :: more)
  if 0o377 < code then failAt (.octalRange (p.text ++ String.ofList more)) p.position
  return code

/-- What an escape means that stands for one code point, inside sets and
outside; `none` if the letter has another meaning. -/
def codeEscape? (p : Piece) : Parse (Option Nat) := do
  if p.char == 'x' then return some (← hexCode p 2)
  else if p.char == 'u' then return some (← hexCode p 4)
  else if p.char == 'U' then return some (← hexCode p 8)
  else if p.char == 'N' then return some (← namedCode p)
  else return none

/-- An escape that is a punctuation mark or a letter outside ASCII. -/
def plainEscape (p : Piece) : Parse Nat := do
  if isAsciiLetter p.char || isDigit p.char then failAt (.badEscape p.text) p.position
  return p.char.toNat

/-- An escape inside a set. -/
def setEscape (p : Piece) : Parse SetItem := do
  match controlCode? p.char with
  | some code => return .code code
  | none =>
    match category? p.char with
    | some (c, negated) => return .category c negated
    | none =>
      match ← codeEscape? p with
      | some code => return .code code
      | none =>
        if isOctal p.char then
          let more ← takeWhile isOctal 2
          return .code (← octalCode p more)
        else return .code (← plainEscape p)

/-- The number of groups opened so far, the whole match counted in. -/
def groupCount : Parse Nat := do return (← get).widths.length + 1

/-- Is the group known and closed? -/
def isClosed (index : Nat) : Parse Bool := do
  return match index, (← get).widths with
    | 0, _ => false
    | i + 1, widths => (widths[i]?.getD none).isSome

/-- Inside a look-behind only groups from outside may be referred to. -/
def checkBehind (index : Nat) : Parse Unit := do
  match (← get).behind with
  | none => return
  | some count =>
    if !(← isClosed index) then fail .openReference 0
    if count ≤ index then fail .lookbehindReference 0

/-- A reference by number, written as `written` behind a backslash. -/
def numberedReference (p : Piece) (digits : List Char) : Parse Node := do
  let index := valueIn 10 digits
  if index < (← groupCount) then
    if !(← isClosed index) then failAt .openReference p.position
    checkBehind index
    return .backref index
  else failAt (.invalidReference index) (p.position + 1)

/-- An escape that starts with a digit other than zero: three octal digits are a
code point, anything else refers to a group. -/
def digitEscape (p : Piece) : Parse Node := do
  let more ← takeWhile isDigit 1
  match more with
  | [d] =>
    if isOctal p.char && isOctal d then
      match ← takeWhile isOctal 1 with
      | [e] => return .code (← octalCode p [d, e])
      | _ => numberedReference p [p.char, d]
    else numberedReference p [p.char, d]
  | _ => numberedReference p [p.char]

/-- An anchor by its letter. -/
def anchor? : Char → Option Anchor
  | 'A' => some .textStart
  | 'Z' => some .textEnd
  | 'b' => some .boundary
  | 'B' => some .inside
  | _ => none

/-- An escape outside sets. -/
def escape (p : Piece) : Parse Node := do
  match anchor? p.char with
  | some a => return .anchor a
  | none =>
    match category? p.char with
    | some (c, negated) => return .set false [.category c negated]
    | none =>
      match controlCode? p.char with
      | some code => return .code code
      | none =>
        match ← codeEscape? p with
        | some code => return .code code
        | none =>
          if p.char == '0' then
            let more ← takeWhile isOctal 2
            return .code (valueIn 8 more)
          else if isDigit p.char then digitEscape p
          else return .code (← plainEscape p)

end DocLint.Regex.Parse

import DocLint.Regex.Error
import DocLint.Regex.Names
import DocLint.Regex.Piece
import DocLint.Regex.Syntax
/-!
# Reading pieces

A `Reading` is what is known while an expression is read: the pieces still to
come, the switches and groups found so far. A step of the reader, `Parse`, takes
pieces from the front and stops at the first problem. A lone backslash at the end
of the text is noticed as soon as the reader comes to stand in front of it.
-/

namespace DocLint.Regex

/-- What the reader knows while it reads. -/
structure Reading where
  /-- The pieces not yet read. -/
  rest : List Piece
  /-- The length of the whole text. -/
  size : Nat
  /-- Does the text end in a lone backslash? -/
  broken : Bool
  /-- The switches set for the whole expression. -/
  flags : Flags
  /-- The named groups. -/
  names : List (String × Nat)
  /-- The widths of the groups from number 1 on; none while a group is open. -/
  widths : List (Option Width)
  /-- Inside a look-behind, the number of groups there were before it. -/
  behind : Option Nat
  /-- Groups that conditions ask for by number, and where. -/
  asked : List (Nat × Nat)
  /-- The characters that have names. -/
  characters : CharacterNames

/-- A step of the reader. -/
abbrev Parse := StateT Reading (Except Error)

namespace Parse

/-- The position of the next piece. -/
def position : Parse Nat := do
  let s ← get
  return match s.rest with
    | p :: _ => p.position
    | [] => s.size

/-- Stop with a problem at a position. -/
def failAt {α : Type} (problem : Problem) (position : Nat) : Parse α :=
  throw (.malformed problem (some position))

/-- Stop with a problem, `back` characters before the next piece. -/
def fail {α : Type} (problem : Problem) (back : Nat) : Parse α := do
  failAt problem ((← position) - back)

/-- Notice a lone backslash in front. -/
def checkEnd : Parse Unit := do
  let s ← get
  if s.rest.isEmpty && s.broken then failAt .endingEscape (s.size - 1)

/-- The next piece. -/
def peek : Parse (Option Piece) := do return (← get).rest.head?

/-- Take the next piece. -/
def next : Parse (Option Piece) := do
  let s ← get
  match s.rest with
  | [] => return none
  | p :: rest =>
    set { s with rest := rest }
    checkEnd
    return some p

/-- Take the next piece if it is this character. -/
def accept (c : Char) : Parse Bool := do
  match ← peek with
  | some p => if p.is c then let _ ← next; return true else return false
  | none => return false

/-- Take up to `limit` characters of a class. -/
def takeWhile (ok : Char → Bool) : Nat → Parse (List Char)
  | 0 => return []
  | limit + 1 => do
    match ← peek with
    | some p =>
      if !p.escaped && ok p.char then
        let _ ← next
        return p.char :: (← takeWhile ok limit)
      else return []
    | none => return []

/-- Take any number of characters of a class. -/
def takeAll (ok : Char → Bool) : Parse (List Char) := do
  takeWhile ok (← get).rest.length

/-- The text up to a terminator, which is taken as well. -/
def takeUntil (terminator : Char) (what : String) : Nat → String → Parse String
  | 0, read => return read
  | fuel + 1, read => do
    match ← next with
    | none =>
      if read.isEmpty then fail (.missing what) 0
      else fail (.missing (String.ofList [terminator] ++ ", unterminated name")) read.length
    | some p =>
      if p.is terminator then
        if read.isEmpty then fail (.missing what) 1 else return read
      else takeUntil terminator what fuel (read ++ p.text)

/-- A name up to its terminator. -/
def takeName (terminator : Char) (what : String) : Parse String := do
  takeUntil terminator what ((← get).rest.length + 1) ""

/-- Skip pieces up to and including a line end. -/
def skipLine : Nat → Parse Unit
  | 0 => return
  | fuel + 1 => do
    match ← next with
    | none => return
    | some p => if p.is '\n' then return else skipLine fuel

/-- Skip a comment in parentheses that began at `start`. -/
def skipComment (start : Nat) : Nat → Parse Unit
  | 0 => return
  | fuel + 1 => do
    match ← next with
    | none => failAt (.missing "), unterminated comment") start
    | some p => if p.is ')' then return else skipComment start fuel

end Parse

end DocLint.Regex

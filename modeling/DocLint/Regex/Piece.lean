/-!
# Pieces of regular expressions

The text of an expression is cut into **pieces**, a backslash staying with the
character behind it. A backslash at the very end has no such character; `scan`
tells whether there is one.
-/

namespace DocLint.Regex

/-- A character of an expression, or a backslash and the character behind it. -/
structure Piece where
  position : Nat
  escaped : Bool
  char : Char
  deriving DecidableEq, Repr

namespace Piece

/-- The characters of a piece, as written. -/
def chars (p : Piece) : List Char := if p.escaped then ['\\', p.char] else [p.char]

/-- The text of a piece. -/
def text (p : Piece) : String := String.ofList p.chars

/-- The number of characters of a piece. -/
def size (p : Piece) : Nat := if p.escaped then 2 else 1

@[simp] theorem length_chars (p : Piece) : p.chars.length = p.size := by
  unfold chars size
  split <;> rfl

/-- Is the piece this character, without a backslash? -/
def is (p : Piece) (c : Char) : Bool := !p.escaped && p.char == c

/-- Is the piece one of these characters, without a backslash? -/
def isOneOf (p : Piece) (cs : List Char) : Bool := !p.escaped && cs.contains p.char

/-- The pieces of a text, and whether a backslash is left at the end. -/
def scan (position : Nat) : List Char → List Piece × Bool
  | [] => ([], false)
  | ['\\'] => ([], true)
  | '\\' :: c :: rest =>
    let (pieces, broken) := scan (position + 2) rest
    (⟨position, true, c⟩ :: pieces, broken)
  | c :: rest =>
    let (pieces, broken) := scan (position + 1) rest
    (⟨position, false, c⟩ :: pieces, broken)

/-- Cutting loses nothing: the pieces, and the backslash that may be left, make up
the text. -/
theorem flatMap_chars_scan (position : Nat) (cs : List Char) :
    (scan position cs).1.flatMap chars ++ (if (scan position cs).2 then ['\\'] else []) = cs := by
  fun_induction scan position cs with
  | case1 => rfl
  | case2 => rfl
  | case3 position c rest pieces broken e ih =>
    rw [e] at ih
    simpa [chars] using ih
  | case4 position c rest _ _ pieces broken e ih =>
    rw [e] at ih
    simpa [chars] using ih

end Piece

end DocLint.Regex

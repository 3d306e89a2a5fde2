import DocLint.Regex.Match
import DocLint.Regex.Parse
/-!
# Compiled regular expressions

A `Regex` is an expression that was read without a fault, ready to be searched
for in a text. The search tries the starting positions from left to right and
keeps the spans of the groups of the first match.
-/

namespace DocLint

/-- A regular expression that is ready for use. -/
structure Regex where
  source : String
  ignoreCase : Bool
  parsed : Regex.Parsed

namespace Regex

/-- Read an expression. -/
def compile [CharacterNames] (source : String) (ignoreCase : Bool) : Except Error Regex := do
  let parsed ← parse source { ignoreCase := ignoreCase }
  return ⟨source, ignoreCase, parsed⟩

/-- The form of an expression that is known to be well-formed. -/
def ofSource [CharacterNames] (source : String) (h : (compile source false).isOk = true) : Regex :=
  match e : compile source false with
  | .ok r => r
  | .error _ => absurd h (by simp [e, Except.isOk, Except.toBool])

/-- A match: the span of the whole and the spans of the groups from number 1
on. -/
structure Found where
  whole : Span
  groups : List (Option Span)
  deriving DecidableEq, Repr

/-- The match that starts at a position. -/
def matchAt? (r : Regex) (text : Array Char) (start : Nat) : Option Found :=
  let widths : Nat → Width := fun index =>
    match index with
    | 0 => ⟨0, 0⟩
    | i + 1 => r.parsed.groups[i]?.getD ⟨0, 0⟩
  let attempt : Attempt := ⟨start, r.parsed.groups.map fun _ => none⟩
  (r.parsed.node.matcher text widths r.parsed.flags some attempt).map fun a =>
    ⟨(start, a.position), a.groups⟩

/-- The first match that starts at `start` or at one of the `count` positions
behind it. -/
def searchFrom? (r : Regex) (text : Array Char) : Nat → Nat → Option Found
  | 0, start => r.matchAt? text start
  | count + 1, start => (r.matchAt? text start).orElse fun _ => searchFrom? r text count (start + 1)

/-- The leftmost match in a text. -/
def search? (r : Regex) (text : String) : Option Found :=
  let chars := text.toList.toArray
  r.searchFrom? chars chars.size 0

end Regex

end DocLint

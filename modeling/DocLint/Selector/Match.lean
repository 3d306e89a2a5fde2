import DocLint.Cursor
import DocLint.Selector.Basic
/-!
# Matching selectors

A selector is matched at a cursor. The answer lists the values that the parts of
the selector mean, the outermost first and the current one last, or is `none`.
The right side of a combinator is matched first; then the cursors at which the
left side may match are tried from the nearest on.

Any value may stand next to a node in a list. Asking for its type fails unless
the value is null or a record that has one.
-/

namespace DocLint

namespace Cursor

/-- Cursors to be tried one after the other; a move that fails ends them. -/
abbrev Candidates := List (Except Fault Cursor)

/-- The nearest ancestor, and those above it; at most `count` of them. -/
def upward : (count : Nat) → Cursor → Candidates
  | 0, _ => []
  | count + 1, c =>
    if c.hasParent then
      match goToParent.from c with
      | .ok above => .ok above :: upward count above
      | .error fault => [.error fault]
    else []

/-- The item right before the position, and those before it; at most `count` of
them. -/
def backward (s : Store) : (count : Nat) → Cursor → Candidates
  | 0, _ => []
  | count + 1, c =>
    match c.hasPreviousSibling s with
    | .error fault => [.error fault]
    | .ok false => []
    | .ok true =>
      match (goToPrevious s).from c with
      | .ok before => .ok before :: backward s count before
      | .error fault => [.error fault]

/-- How often the cursor can be moved back in its list. -/
def itemsBefore (c : Cursor) : Nat :=
  match c.steps.top? with
  | some (.index i) => i.toNat
  | _ => 1

end Cursor

/-- Where the left side of a combinator may stand, seen from the right side. -/
def Combinator.candidates (s : Store) (c : Cursor) : Combinator → Cursor.Candidates
  | parent => c.upward 1
  | previous => c.backward s 1
  | ancestor => c.upward c.depth
  | sibling => c.backward s c.itemsBefore
  | unknown name => [.error (.type (.unsupportedCombinator name))]

/-- The values that a selector means, the outermost first. -/
abbrev Matched := List Ref

namespace Selector

/-- The answer of the first candidate that has one. -/
def firstMatch (find : Cursor → Except Fault (Option Matched)) :
    Cursor.Candidates → Except Fault (Option Matched)
  | [] => return none
  | candidate :: rest => do
    match ← find (← candidate) with
    | some found => return some found
    | none => firstMatch find rest

mutual
/-- Match a selector at a cursor. -/
def find? (s : Store) : Selector → Cursor → Except Fault (Option Matched)
  | .any, c => return some [c.current]
  | .type name, c => do
    if c.current = .null then return none
    let type ← s.field c.current "type"
    return if type = .scalar (.str name) then some [c.current] else none
  | .comb kind left right, c => do
    match ← find? s right c with
    | none => return none
    | some inner =>
      let outer ← firstMatch (fun c => find? s left c) (kind.candidates s c)
      return outer.map (· ++ inner)
  | .filtered inner _, c => find? s inner c
  | .list alternatives, c => findFirst? s alternatives c
  | .foreign value, _ => throw (.type (.unsupportedSelector value.kind))

/-- Match the first selector that matches. -/
def findFirst? (s : Store) : List Selector → Cursor → Except Fault (Option Matched)
  | [], _ => return none
  | selector :: rest, c => do
    match ← find? s selector c with
    | some found => return some found
    | none => findFirst? s rest c
end

end Selector

end DocLint

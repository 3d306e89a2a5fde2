import DocLint.Regex.Escape
/-!
# Sets of characters

What stands between brackets: single characters, ranges and classes. A closing
bracket is a member of the set when it comes first, also behind the `^` that
negates the set.
-/

namespace DocLint.Regex.Parse

/-- A member of a set that is one piece, before a range is thought of. -/
def setMember (p : Piece) : Parse SetItem :=
  if p.escaped then setEscape p else return .code p.char.toNat

/-- The range from `first` to `last`, which were written as `p` and `q`. -/
def setRange (p q : Piece) (first last : SetItem) : Parse SetItem := do
  match first, last with
  | .code a, .code b =>
    if b < a then fail (.badRange p.text q.text) (p.size + 1 + q.size)
    return .range a b
  | _, _ => fail (.badRange p.text q.text) (p.size + 1 + q.size)

/-- The members of the set that began at `start`, from the next on; a closing
bracket is a member when it comes first. -/
def setItems (start : Nat) : Nat → List SetItem → Parse (List SetItem)
  | 0, items => return items
  | fuel + 1, items => do
    match ← next with
    | none => failAt .unterminatedSet start
    | some p =>
      if p.is ']' && !items.isEmpty then return items
      else
        let first ← setMember p
        if ← accept '-' then
          match ← next with
          | none => failAt .unterminatedSet start
          | some q =>
            -- A hyphen in front of the closing bracket is a member.
            if q.is ']' then return items ++ [first, .code '-'.toNat]
            else
              let last ← setMember q
              setItems start fuel (items ++ [← setRange p q first last])
        else setItems start fuel (items ++ [first])

/-- A set that began at `start`, behind its bracket. -/
def charSet (start : Nat) : Parse Node := do
  let negated ← accept '^'
  return .set negated (← setItems start ((← get).rest.length + 1) [])

end DocLint.Regex.Parse

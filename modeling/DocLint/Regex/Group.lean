import DocLint.Number.Literal
import DocLint.Regex.Escape
import DocLint.Text.Identifier
import DocLint.Text.Letter
/-!
# Openings of groups

What an opening parenthesis turns out to be (`Opened`): a group that is captured,
perhaps under a name, a group with switches of its own, a look around, a
condition, a comment or a reference. Groups are numbered in the order of their
opening parentheses, and a group may be referred to once it is closed.
-/

namespace DocLint.Regex.Parse

/-- Open a group. -/
def openGroup (name : Option String) : Parse Nat := do
  let s ← get
  let index := s.widths.length + 1
  match name with
  | none => set { s with widths := s.widths ++ [none] }
  | some name =>
    match s.names.find? (·.1 == name) with
    | some (_, previous) => fail (.redefinition name index previous) (name.length + 1)
    | none => set { s with widths := s.widths ++ [none], names := s.names ++ [(name, index)] }
  return index

/-- The widths of the groups that are closed. -/
def knownWidths (widths : List (Option Width)) (index : Nat) : Width :=
  match index with
  | 0 => ⟨0, 0⟩
  | i + 1 => (widths[i]?.getD none).getD ⟨0, 0⟩

/-- Close a group. -/
def closeGroup (index : Nat) (body : Node) : Parse Unit :=
  modify fun s =>
    { s with widths := s.widths.set (index - 1) (some (body.width (knownWidths s.widths))) }

/-- The name of a group, checked. -/
def groupName (terminator : Char) : Parse String := do
  let name ← takeName terminator "group name"
  if !Text.isIdentifier name.toList then fail (.badGroupName name) (name.length + 1)
  return name

/-- A reference by name. -/
def namedReference : Parse Node := do
  let name ← groupName ')'
  match (← get).names.find? (·.1 == name) with
  | none => fail (.unknownGroupName name) (name.length + 1)
  | some (_, index) =>
    if !(← isClosed index) then fail .openReference (name.length + 1)
    checkBehind index
    return .backref index

/-- The group that a condition asks for. -/
def conditionGroup : Parse Nat := do
  let name ← takeName ')' "group name"
  if Text.isIdentifier name.toList then
    match (← get).names.find? (·.1 == name) with
    | none => fail (.unknownGroupName name) (name.length + 1)
    | some (_, index) => return index
  else
    match Literal.read name with
    | .ok (.ofNat index) =>
      if index == 0 then fail .badGroupNumber (name.length + 1)
      if 1073741823 ≤ index then fail (.invalidReference index) (name.length + 1)
      let here ← position
      modify fun s =>
        if s.asked.any (·.1 == index) then s
        else { s with asked := s.asked ++ [(index, here - name.length - 1)] }
      return index
    | _ => fail (.badGroupName name) (name.length + 1)

/-- The switch of a letter. -/
def flag? : Char → Option Flags
  | 'i' => some { ignoreCase := true }
  | 'm' => some { multiLine := true }
  | 's' => some { dotAll := true }
  | 'x' => some { verbose := true }
  | 'a' => some { ascii := true }
  | 'u' => some { unicode := true }
  | 't' => some { template := true }
  | _ => none

/-- Is the letter one of a switch, the one for locales included? -/
def isFlag (p : Piece) : Bool := !p.escaped && (p.char == 'L' || (flag? p.char).isSome)

/-- The problem of a piece where a switch should stand. -/
def flagProblem (p : Piece) (otherwise : String) : Problem :=
  if !p.escaped && Text.isLetter p.char then .unknownFlag else .missing otherwise

/-- Switches to turn on, from the letter `p` on; answers with the piece behind
them. -/
def flagsOn : Nat → Flags → Piece → Parse (Flags × Piece)
  | 0, on, p => return (on, p)
  | fuel + 1, on, p => do
    if p.char == 'L' then fail .localeFlag 0
    let on := on.union ((flag? p.char).getD {})
    if on.ascii && on.unicode then fail .clashingFlags 0
    match ← next with
    | none => fail (.missing "-, : or )") 0
    | some q =>
      if q.isOneOf [')', '-', ':'] then return (on, q)
      else if isFlag q then flagsOn fuel on q
      else fail (flagProblem q "-, : or )") q.size

/-- Switches to turn off, from the letter `p` on, up to the colon. -/
def flagsOff : Nat → Flags → Piece → Parse Flags
  | 0, off, _ => return off
  | fuel + 1, off, p => do
    if p.char == 'L' || p.char == 'a' || p.char == 'u' then fail .repertoireOff 0
    let off := off.union ((flag? p.char).getD {})
    match ← next with
    | none => fail (.missing ":") 0
    | some q =>
      if q.is ':' then return off
      else if isFlag q then flagsOff fuel off q
      else fail (flagProblem q ":") q.size

/-- Switches behind a question mark: for the whole expression (`none`), or those
turned on and off in a group. `p` is the first piece. -/
def flagGroup (p : Piece) : Parse (Option (Flags × Flags)) := do
  let fuel := (← get).rest.length + 1
  let (on, stop) ← if p.is '-' then pure ({}, p) else flagsOn fuel {} p
  if stop.is ')' then
    modify fun s => { s with flags := s.flags.union on }
    return none
  if on.template then fail (.globalFlag true) 1
  let off ←
    if stop.is '-' then
      match ← next with
      | none => fail (.missing "flag") 0
      | some q =>
        if isFlag q then flagsOff fuel {} q
        else fail (flagProblem q "flag") q.size
    else pure {}
  if off.template then fail (.globalFlag false) 1
  if !(on.common off).isEmpty then fail .flagOnAndOff 1
  return some (on, off)

/-- What an opening parenthesis turns out to be. -/
inductive Opened
  /-- Something that is complete. -/
  | done (item : Option Node)
  /-- Switches for the whole expression. -/
  | flags
  /-- A group whose inside follows. -/
  | capture (name : Option String)
  | scope (on off : Flags)
  | atomic
  | look (ahead wanted : Bool)
  | cond

/-- Read what stands behind the parenthesis at `start`. -/
def opened (start : Nat) : Parse Opened := do
  if !(← accept '?') then return .capture none
  match ← next with
  | none => fail .unexpectedEnd 0
  | some p =>
    if p.is 'P' then
      if ← accept '<' then return .capture (some (← groupName '>'))
      else if ← accept '=' then return .done (some (← namedReference))
      else
        match ← next with
        | none => fail .unexpectedEnd 0
        | some q => fail (.unknownExtension ("P" ++ q.text)) (q.size + 2)
    else if p.is ':' then return .scope {} {}
    else if p.is '#' then
      skipComment start ((← get).rest.length + 1)
      return .done none
    else if p.is '=' then return .look true true
    else if p.is '!' then return .look true false
    else if p.is '<' then
      match ← next with
      | none => fail .unexpectedEnd 0
      | some q =>
        if q.is '=' then return .look false true
        else if q.is '!' then return .look false false
        else fail (.unknownExtension ("<" ++ q.text)) (q.size + 2)
    else if p.is '(' then return .cond
    else if p.is '>' then return .atomic
    else if isFlag p || p.is '-' then
      match ← flagGroup p with
      | none => return .flags
      | some (on, off) => return .scope on off
    else fail (.unknownExtension p.text) (p.size + 1)

end DocLint.Regex.Parse

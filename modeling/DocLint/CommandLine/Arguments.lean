import DocLint.Number.Literal
/-!
# Command-line arguments

What a program understands on its command line: **switches**, some of which take
a value, and **operands**. Arguments are sorted first, all of them, and read
afterwards.

* `--` ends the switches.
* A long switch may be cut short as long as one switch is left that it can mean,
  and its value may follow behind an equals sign.
* Short switches without values may be written together, and a value may follow
  a short switch at once.
* What looks like a negative number, or has a blank in it, is no switch.

Reading stops at a switch that asks for help, or at the first mistake.
-/

namespace DocLint.CommandLine

/-- What a switch takes. -/
inductive Takes
  | nothing
  | number
  deriving DecidableEq, Repr

/-- A switch, under all its names. -/
structure Switch where
  /-- The names, with their dashes; the first one is its key. -/
  names : List String
  takes : Takes
  deriving DecidableEq, Repr

/-- The switch that asks for help. -/
def helpSwitch : Switch := ⟨["-h", "--help"], .nothing⟩

/-- The name of a switch in messages. -/
def Switch.shown (s : Switch) : String := "/".intercalate s.names

/-- What a program understands. -/
structure Usage where
  switches : List Switch
  /-- The names of the operands; each has to be given. -/
  operands : List String

/-- Why reading stops. -/
inductive Stop
  | help
  | mistake (message : String)
  deriving DecidableEq, Repr

/-- What was given. -/
structure Given where
  /-- The switches by their keys, the last one in front. -/
  switches : List (String × Option Int)
  operands : List (String × String)
  deriving DecidableEq, Repr

namespace Given

/-- Was a switch given? -/
def has (g : Given) (key : String) : Bool := g.switches.any (·.1 == key)

/-- The last value of a switch. -/
def number? (g : Given) (key : String) : Option Int :=
  (g.switches.find? (·.1 == key)).bind (·.2)

/-- The value of an operand. -/
def operand (g : Given) (name : String) : String :=
  ((g.operands.find? (·.1 == name)).map (·.2)).getD ""

end Given

/-! ## Sorting arguments -/

/-- A switch as it is written: the name it was found under, and the text behind
it, if there is any; `equals` tells whether an equals sign stands between. -/
structure Use where
  switch : Switch
  name : String
  equals : Bool
  value : Option String

/-- An argument, sorted. -/
inductive Piece
  | operand (text : String)
  /-- The two dashes that end the switches. -/
  | separator
  | switch (use : Use)
  /-- Looks like a switch, but is none. -/
  | unknown (text : String)

/-- An argument as it was written. -/
def Piece.text : Piece → String
  | operand text | unknown text => text
  | separator => "--"
  | switch use => use.name

/-- All switches, under all names. -/
def namesOf (switches : List Switch) : List (String × Switch) :=
  switches.flatMap fun s => s.names.map fun name => (name, s)

/-- The text before the first equals sign, and the text behind it if there is
one. -/
def splitAtEquals (s : String) : String × Option String :=
  match s.toList.span (· != '=') with
  | (before, _ :: behind) => (String.ofList before, some (String.ofList behind))
  | (before, []) => (String.ofList before, none)

/-- The switches that an argument may mean, which is not the full name of one. -/
def candidates (names : List (String × Switch)) (argument : String) : List Use :=
  match argument.toList with
  | '-' :: '-' :: _ =>
    let (start, value) := splitAtEquals argument
    names.filterMap fun (name, switch) =>
      if start.toList.isPrefixOf name.toList then some ⟨switch, name, value.isSome, value⟩
      else none
  | '-' :: c :: behind =>
    names.filterMap fun (name, switch) =>
      if name.toList = ['-', c] then some ⟨switch, name, false, some (String.ofList behind)⟩
      else if argument.toList.isPrefixOf name.toList then some ⟨switch, name, false, none⟩
      else none
  | _ => []

/-- Is the text a negative number, perhaps with a fraction? -/
def isNegativeNumber (s : String) : Bool :=
  let isDigit : Char → Bool := fun c => (Text.decimalValue? c).isSome
  match s.toList with
  | '-' :: rest =>
    let rest := if rest.getLast? = some '\n' then rest.dropLast else rest
    let fraction := rest.dropWhile isDigit
    if fraction.isEmpty then !rest.isEmpty
    else
      match fraction with
      | '.' :: digits => !digits.isEmpty && digits.all isDigit
      | _ => false
  | _ => false

/-- Sort an argument that begins with a dash and is more than that. -/
def sortDashed (names : List (String × Switch)) (argument : String) : Except Stop Piece := do
  if let some switch := names.lookup argument then return .switch ⟨switch, argument, false, none⟩
  let (start, value) := splitAtEquals argument
  if let (some switch, some value) := (names.lookup start, value) then
    return .switch ⟨switch, start, true, some value⟩
  match candidates names argument with
  | [use] => return .switch use
  | [] =>
    if isNegativeNumber argument || argument.toList.contains ' ' then return .operand argument
    else return .unknown argument
  | uses =>
    throw (.mistake ("ambiguous option: " ++ argument ++ " could match " ++
      ", ".intercalate (uses.map (·.name))))

/-- Sort an argument. -/
def sortOne (names : List (String × Switch)) (argument : String) : Except Stop Piece :=
  match argument.toList with
  | '-' :: _ :: _ => sortDashed names argument
  | _ => return .operand argument

/-- Sort all arguments. -/
def sort (names : List (String × Switch)) : List String → Except Stop (List Piece)
  | [] => return []
  | argument :: rest => do
    if argument = "--" then return .separator :: rest.map .operand
    let piece ← sortOne names argument
    return piece :: (← sort names rest)

/-! ## Reading them -/

/-- What reading has come to. -/
structure Progress where
  /-- The operands that are still to come. -/
  missing : List String
  given : Given
  /-- Arguments that nothing asked for. -/
  extras : List String

/-- A mistake in the use of a switch. -/
def misuse (s : Switch) (problem : String) : Stop :=
  .mistake ("argument " ++ s.shown ++ ": " ++ problem)

/-- A switch with the text of its value, before the value is read. -/
abbrev Setting := Switch × Option String

/-- What the use of a switch comes to: what it sets, what of it nothing asked for,
and the pieces behind it. -/
abbrev Expansion := List Setting × List String × List Piece

/-- A switch without text behind it. A value is the next piece. -/
def expandBare (rest : List Piece) (switch : Switch) : Except Stop Expansion :=
  match switch.takes, rest with
  | .nothing, rest => return ([(switch, none)], [], rest)
  | .number, .operand text :: rest => return ([(switch, some text)], [], rest)
  | .number, _ => throw (misuse switch "expected one argument")

/-- A switch without value in front of what else was written with it. -/
def Expansion.behind (switch : Switch) : Expansion → Expansion
  | (settings, extras, rest) => ((switch, none) :: settings, extras, rest)

/-- A switch under `name` with text at once behind it: its value, or else further
short switches. -/
def expandJoined (names : List (String × Switch)) (rest : List Piece) (switch : Switch)
    (name : String) (equals : Bool) : List Char → Except Stop Expansion
  | [] =>
    match switch.takes with
    | .number => return ([(switch, some "")], [], rest)
    | .nothing => throw (misuse switch ("ignored explicit argument " ++ Text.quoted ""))
  | c :: tail =>
    match switch.takes with
    | .number => return ([(switch, some (String.ofList (c :: tail)))], [], rest)
    | .nothing =>
      if name.toList.take 2 = ['-', '-'] || equals || c = '-' then
        throw (misuse switch
          ("ignored explicit argument " ++ Text.quoted (String.ofList (c :: tail))))
      else
        let next := String.ofList ['-', c]
        match names.lookup next, tail with
        | none, _ => return ([(switch, none)], [String.ofList ('-' :: c :: tail)], rest)
        | some inner, [] => (expandBare rest inner).map (Expansion.behind switch)
        | some inner, '=' :: text =>
          (expandJoined names rest inner next true text).map (Expansion.behind switch)
        | some inner, d :: text =>
          (expandJoined names rest inner next false (d :: text)).map (Expansion.behind switch)

/-- What the use of a switch comes to. -/
def expand (names : List (String × Switch)) (rest : List Piece) (use : Use) :
    Except Stop Expansion :=
  match use.value with
  | none => expandBare rest use.switch
  | some text => expandJoined names rest use.switch use.name use.equals text.toList

/-- Take a setting into account. -/
def apply (g : Given) : Setting → Except Stop Given
  | (switch, value) => do
    if switch = helpSwitch then throw .help
    let key := switch.names.headD ""
    match value with
    | none => return { g with switches := (key, none) :: g.switches }
    | some text =>
      match Literal.read text with
      | .ok i => return { g with switches := (key, some i) :: g.switches }
      | .error _ => throw (misuse switch ("invalid int value: " ++ Text.quoted text))

/-- The next operand of the pieces, the separators around it with it. -/
def takeOperand : List Piece → Option (String × List Piece)
  | .separator :: rest => takeOperand rest
  | .operand text :: .separator :: rest => some (text, rest)
  | .operand text :: rest => some (text, rest)
  | _ => none

/-- Take the operands that are still to come from the front of the pieces. -/
def takeOperands (g : Given) : List String → List Piece → List String × Given × List Piece
  | [], pieces => ([], g, pieces)
  | name :: missing, pieces =>
    match takeOperand pieces with
    | some (text, rest) =>
      takeOperands { g with operands := g.operands ++ [(name, text)] } missing rest
    | none => (name :: missing, g, pieces)

/-- Is the piece a switch, or does it look like one? -/
def Piece.isDashed : Piece → Bool
  | switch _ | unknown _ => true
  | _ => false

/-- Read the pieces; each step takes at least one of the `count` pieces. -/
def readPieces (names : List (String × Switch)) : (count : Nat) → List Piece → Progress →
    Except Stop Progress
  | 0, _, p => return p
  | count + 1, pieces, p =>
    match pieces with
    | [] => return p
    | .unknown text :: rest =>
      readPieces names count rest { p with extras := p.extras ++ [text] }
    | .switch use :: rest => do
      let (settings, extras, rest) ← expand names rest use
      let given ← settings.foldlM apply p.given
      readPieces names count rest { p with given, extras := p.extras ++ extras }
    | pieces =>
      let (missing, given, rest) := takeOperands p.given p.missing pieces
      if missing.length < p.missing.length then
        readPieces names count rest { p with missing, given }
      else
        let unused := pieces.takeWhile (!·.isDashed)
        readPieces names count (pieces.dropWhile (!·.isDashed))
          { p with extras := p.extras ++ unused.map Piece.text }

/-- Read the arguments of a program. -/
def Usage.read (u : Usage) (arguments : List String) : Except Stop Given := do
  let names := namesOf (helpSwitch :: u.switches)
  let pieces ← sort names arguments
  let p ← readPieces names (pieces.length + 1) pieces ⟨u.operands, ⟨[], []⟩, []⟩
  if !p.missing.isEmpty then
    throw (.mistake ("the following arguments are required: " ++ ", ".intercalate p.missing))
  if !p.extras.isEmpty then
    throw (.mistake ("unrecognized arguments: " ++ " ".intercalate p.extras))
  return p.given

end DocLint.CommandLine

import DocLint.Tree
/-!
# Writing JSON

`Json.write` prints a tree on one line, `Json.writeIndented` over several, two
blanks per level and an empty list or record in one piece. Texts are printed
either in plain ASCII, everything else by code units, or as they are, with only
the characters escaped that JSON demands.
-/

namespace DocLint.Json

/-- Which characters a text may show as they are. -/
inductive Charset
  /-- Printable ASCII. -/
  | ascii
  /-- All but control characters. -/
  | unicode
  deriving DecidableEq, Repr

/-- A code unit of sixteen bits as an escape. -/
def unitEscape (unit : Nat) : List Char := '\\' :: 'u' :: Text.hexDigits 4 unit

/-- A character as one escape, or as two outside the first plane. -/
def codeEscape (n : Nat) : List Char :=
  if n < 0x10000 then unitEscape n
  else
    let offset := n - 0x10000
    unitEscape (0xD800 + offset / 0x400) ++ unitEscape (0xDC00 + offset % 0x400)

/-- A character inside a text. -/
def writeChar (charset : Charset) (c : Char) : List Char :=
  if c == '"' then ['\\', '"']
  else if c == '\\' then ['\\', '\\']
  else if c == '\n' then ['\\', 'n']
  else if c == '\r' then ['\\', 'r']
  else if c == '\t' then ['\\', 't']
  else if c == '\x08' then ['\\', 'b']
  else if c == '\x0C' then ['\\', 'f']
  else if c.toNat < 0x20 then codeEscape c.toNat
  else if charset == .ascii && 0x7E < c.toNat then codeEscape c.toNat
  else [c]

/-- A text with its marks. -/
def writeText (charset : Charset) (s : String) : String :=
  String.ofList ('"' :: s.toList.flatMap (writeChar charset) ++ ['"'])

/-- The words for the numbers without digits, as JSON output spells them. -/
def jsonWords : Shortest.Words := ⟨"NaN", "Infinity"⟩

/-- A scalar. -/
def writeScalar (charset : Charset) : Scalar → String
  | .null => "null"
  | .bool true => "true"
  | .bool false => "false"
  | .int i => toString i
  | .float x => Shortest.render jsonWords x
  | .str s => writeText charset s

mutual
/-- A value on one line. -/
def write (charset : Charset) : Tree → String
  | .scalar s => writeScalar charset s
  | .list items => "[" ++ ", ".intercalate (writeItems charset items) ++ "]"
  | .record fields => "\x7b" ++ ", ".intercalate (writeFields charset fields) ++ "\x7d"

/-- The items of a list, each on one line. -/
def writeItems (charset : Charset) : List Tree → List String
  | [] => []
  | t :: rest => write charset t :: writeItems charset rest

/-- The fields of a record, each on one line. -/
def writeFields (charset : Charset) : List (String × Tree) → List String
  | [] => []
  | (key, t) :: rest =>
    (writeText charset key ++ ": " ++ write charset t) :: writeFields charset rest
end

/-- A line break and the blanks of a level. -/
def lineBreak (level : Nat) : String := "\n" ++ String.ofList (List.replicate (2 * level) ' ')

/-- Parts on lines of their own between an opening and a closing mark. -/
def writeBlock (opening closing : String) (level : Nat) (parts : List String) : String :=
  if parts.isEmpty then opening ++ closing
  else
    opening ++ lineBreak (level + 1) ++ ("," ++ lineBreak (level + 1)).intercalate parts ++
      lineBreak level ++ closing

mutual
/-- A value over several lines, its first line at `level`. -/
def writeIndentedAt (charset : Charset) (level : Nat) : Tree → String
  | .scalar s => writeScalar charset s
  | .list items => writeBlock "[" "]" level (writeIndentedItems charset (level + 1) items)
  | .record fields =>
    writeBlock "\x7b" "\x7d" level (writeIndentedFields charset (level + 1) fields)

/-- The items of a list over several lines. -/
def writeIndentedItems (charset : Charset) (level : Nat) : List Tree → List String
  | [] => []
  | t :: rest => writeIndentedAt charset level t :: writeIndentedItems charset level rest

/-- The fields of a record over several lines. -/
def writeIndentedFields (charset : Charset) (level : Nat) :
    List (String × Tree) → List String
  | [] => []
  | (key, t) :: rest =>
    (writeText charset key ++ ": " ++ writeIndentedAt charset level t) ::
      writeIndentedFields charset level rest
end

/-- A value over several lines. -/
def writeIndented (charset : Charset) (t : Tree) : String := writeIndentedAt charset 0 t

end DocLint.Json

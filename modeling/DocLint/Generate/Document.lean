import DocLint.Generate.Source
/-!
# Random documents

Documents made by chance, of all shapes that the built-in rules look at: blocks
such as paragraphs, lists and tables, and the inline nodes inside them. Nesting
ends at a given level, where only text and paragraphs are made.
-/

namespace DocLint.Generate

variable {σ : Type} [Source σ]

/-- The characters of random text. -/
def alphabet : List Char :=
  "abcdefghijklmnopqrstuvwxyzABCDEFGHIJKLMNOPQRSTUVWXYZ0123456789 .!?:$".toList

/-- Random text of a given length. -/
def letters (length : Nat) : Gen σ String := do
  return String.ofList (← times (oneOf 'a' alphabet.tail) length)

/-- Random text of a length from `least` to `most`. -/
def text (least most : Nat) : Gen σ String := do
  letters (← between least most)

/-- A length from `least` to `most`, which need not be in order: the draws then
go down from `least`. A range without numbers has no length. -/
def anyLength (least most : Int) : Gen σ (Except Fault Int) := do
  let number ← draw
  let count := most - least + 1
  return if count = 0 then .error .emptyRange else .ok (least + Int.fmod number count)

/-- Random text of a length from `least` to `most`; a negative length counts as
none. -/
def anyText (least most : Int) : Gen σ (Except Fault String) := do
  match ← anyLength least most with
  | .error fault => return .error fault
  | .ok length => return .ok (← letters length.toNat)

/-- Texts that rules and readers are prone to get wrong. -/
def trickyTexts : List String :=
  [" ", "End.  Next", "click here", "$", "\\$", "Title Case Words", "lowercase start",
    "\u00a0", "\u200b", "".pushn 'x' 600]

/-- A node of a type. -/
def node (type : String) (fields : List (String × Tree)) : Tree :=
  .record (("type", .str type) :: fields)

/-- A text leaf. -/
def textLeaf : Gen σ Tree := do
  let content ← if ← chance 3 then oneOf "" trickyTexts else text 0 20
  return node "text" [("content", .str content)]

/-- The types of inline nodes. -/
inductive InlineType
  | text
  | em
  | strong
  | link
  | image
  | math
  | widget
  | unescapedDollar
  deriving DecidableEq, Repr

/-- Where links lead. -/
def targets : List String :=
  ["https://www.khanacademy.org/x", "https://example.com", "", "http://["]

/-- An image, perhaps with a description. -/
def image : Gen σ Tree := do
  let target ← oneOf "https://cdn.kastatic.org/a.png" ["/a.png"]
  let alt ← if ← chance 7 then (do return [("alt", .str (← text 0 12))]) else pure []
  return node "image" (("target", .str target) :: alt)

/-- A formula. -/
def formula : Gen σ Tree := do
  let other ← text 0 20
  return node "math" [("content", .str (← oneOf "" ["  ", "x^2", other]))]

/-- An inline node; `inner` makes those inside it, if it may have any. -/
def inlineWith (inner : Gen σ Tree) (mayNest : Bool) : Gen σ Tree := do
  let type ← oneOf InlineType.text
    [.em, .strong, .link, .image, .math, .widget, .unescapedDollar]
  if !mayNest then textLeaf
  else
    match type with
    | .text => textLeaf
    | .em => return node "em" [("content", .list (← upTo 3 inner))]
    | .strong => return node "strong" [("content", .list (← upTo 3 inner))]
    | .link => do
      let target ← oneOf "/relative" targets
      return node "link" [("target", .str target), ("content", .list (← upTo 2 inner))]
    | .image => image
    | .math => formula
    | .widget => return node "widget" [("widgetType", .str "radio"), ("id", .str "radio 1")]
    | .unescapedDollar => return node "unescapedDollar" []

/-- An inline node with at most `levels` levels of nodes inside it. -/
def inlineNode : (levels : Nat) → Gen σ Tree
  | 0 => inlineWith textLeaf false
  | levels + 1 => inlineWith (inlineNode levels) true

/-- The types of blocks. -/
inductive BlockType
  | paragraph
  | heading
  | list
  | blockQuote
  | table
  | codeBlock
  deriving DecidableEq, Repr

/-- A cell of a table. -/
def cell : Gen σ Tree := do return .list [← textLeaf]

/-- A row of a table of a width; one row in five has any number of cells. -/
def row (width : Nat) : Gen σ Tree := do
  let count ← if ← chance 8 then pure width else between 0 4
  return .list (← times cell count)

/-- A table; one in ten is malformed. -/
def table : Gen σ Tree := do
  let width ← between 1 3
  if ← chance 1 then return node "table" [("header", .list [])]
  let header ← times cell width
  let cells ← upTo 3 (row width)
  return node "table" [("header", .list header), ("align", .list (List.replicate width .null)),
    ("cells", .list cells)]

/-- A block; `inline` and `block` make the nodes inside it. Where it may not nest,
it is a paragraph. -/
def blockWith (inline block : Gen σ Tree) (mayNest : Bool) : Gen σ Tree := do
  let type ← oneOf BlockType.paragraph [.heading, .list, .blockQuote, .table, .codeBlock]
  match if mayNest then type else .paragraph with
  | .paragraph => return node "paragraph" [("content", .list (← upTo 5 inline))]
  | .heading => do
    let level ← between 1 6
    return node "heading" [("level", .int level), ("content", .list (← upTo 3 inline))]
  | .list => do
    let ordered ← chance 5
    let items ← upTo 3 (do return .list (← upTo 2 block))
    return node "list" [("ordered", .bool ordered), ("items", .list items)]
  | .blockQuote => return node "blockQuote" [("content", .list (← upTo 3 block))]
  | .table => table
  | .codeBlock => return node "codeBlock" [("lang", .str "py"), ("content", .str (← text 0 20))]

/-- A block with at most `levels` levels of nodes inside it. -/
def block : (levels : Nat) → Gen σ Tree
  | 0 => blockWith (inlineNode 0) (pure .null) false
  | levels + 1 => blockWith (inlineNode levels) (block levels) true

/-- How deep documents nest. -/
def deepest : Nat := 4

/-- How many levels are left below a depth. -/
def levelsBelow (depth : Int) : Nat := (deepest - (depth + 1)).toNat

/-- An inline node at a depth, which nests only above the depth `limit`. -/
def inlineAt (depth limit : Int) : Gen σ Tree :=
  inlineWith (inlineNode (levelsBelow depth)) (depth < limit)

/-- A block at a depth, which nests only above the depth `limit`. -/
def blockAt (depth limit : Int) : Gen σ Tree :=
  blockWith (inlineNode (levelsBelow depth)) (block (levelsBelow depth)) (depth < limit)

/-- A document: a list of blocks, or, one time in ten, a node around it. -/
def document : Gen σ Tree := do
  let blocks ← upTo 12 (block deepest)
  if ← chance 1 then return node "document" [("body", .list blocks)]
  else return .list blocks

end DocLint.Generate

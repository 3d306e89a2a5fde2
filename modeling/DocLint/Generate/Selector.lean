import DocLint.Generate.Source
/-!
# Random selectors

Texts of selectors made by chance, some well-formed and some thrown together from
pieces.
-/

namespace DocLint.Generate

variable {σ : Type} [Source σ]

/-- The node types that selectors name. -/
def nodeTypes : List String :=
  ["paragraph", "heading", "list", "blockQuote", "table", "codeBlock", "text", "em", "strong",
    "link", "image", "math", "widget", "unescapedDollar"]

/-- A node type, or the star that means any. -/
def nodeSelector : Gen σ String := oneOf "paragraph" (nodeTypes.tail ++ ["*"])

/-- A combinator and what stands behind it. -/
def chainLink : Gen σ String := do
  let combinator ← oneOf " " [" > ", " + ", " ~ ", ">", "~"]
  return combinator ++ (← nodeSelector)

/-- One alternative of a selector, perhaps with a text filter. -/
def alternative : Gen σ String := do
  let first ← nodeSelector
  let links ← upTo 3 chainLink
  let filter ← if ← chance 2 then oneOf " /a/" [" /[A-Z]/i", "/x+/"] else pure ""
  return first ++ String.join links ++ filter

/-- A well-formed selector. -/
def validSelector : Gen σ String := do
  let count ← between 1 3
  return ", ".intercalate (← times alternative count)

/-- What malformed selectors are made of, besides node types. -/
def pieces : List String :=
  [">", "+", "~", ",", "*", "/", "//", "/a/", "/a/i", "/[/]/", "(", "12", "\t", "/x/g"]

/-- A selector, which is often malformed. -/
def anySelector : Gen σ String := do
  if ← chance 6 then validSelector
  else return String.join (← upTo 8 (oneOf " " (pieces ++ nodeTypes)))

end DocLint.Generate

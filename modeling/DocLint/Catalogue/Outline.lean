import DocLint.Catalogue.Basic
/-!
# Built-in rules about the outline

Rules that look at the levels of headings and at what stands inside what.
-/

namespace DocLint.Catalogue

/-- More characters than this make no text. -/
def longestText : Nat := twoTo 40

/-- The marks that a heading of a level begins with. -/
def hashes (level : Nat) : Except Fault String :=
  if level < longestText then return "".pushn '#' level else throw (.tooLong level)

/-- What is said about a heading above the highest level that documents may use. -/
def tooHigh (minimum : Nat) (level : Ref) : Except Fault Answer := do
  let marks ← hashes minimum
  return report ["Don't use level-" ++ (← shown level) ++ " headings:",
    "Begin headings with " ++ marks ++ " or more # characters."]

/-- The highest levels of headings are not for documents. -/
def headingLevel (config : Config) : Rule :=
  let minimum := config.minHeadingLevel
  rule "heading-level-1" (.type "heading") <| .ask fun nodes _ => do
    let level ← field nodes 0 "level"
    match integer? level with
    | none => return nothing
    | some i =>
      if i < minimum.value then tooHigh minimum.value level else return nothing

/-- What is said about a heading that is too far below the heading before it. -/
def tooLow (previous current : Ref) : Except Fault Answer := do
  let current ← shown current
  return report ["Skipped heading level:",
    "this heading is level " ++ current ++ " but the previous heading was level " ++
      (← shown previous) ++ "."]

/-- A heading may be at most one level below the heading before it. The sibling
combinator finds the nearest one. -/
def headingLevelSkip : Rule :=
  rule "heading-level-skip" (.comb .sibling (.type "heading") (.type "heading")) <|
    .ask fun nodes _ => do
      let previous ← field nodes 0 "level"
      let current ← field nodes 1 "level"
      match integer? previous, integer? current with
      | some p, some c =>
        if 1 < c - p then tooLow previous current else return nothing
      | _, _ => return nothing

/-- Lists should not be nested. -/
def nestedLists : Rule :=
  rule "nested-lists" (.comb .ancestor (.type "list") (.type "list"))
    (saying ["Nested lists:", "nested lists are hard to read on mobile devices;",
      "do not use additional indentation."])

/-- Formulas should not be quoted. -/
def blockquotedMath : Rule :=
  rule "blockquoted-math" (.comb .ancestor (.type "blockQuote") (.type "math"))
    (saying ["Blockquoted math:", "math should not be indented."])

/-- Widgets should not be quoted. -/
def blockquotedWidget : Rule :=
  rule "blockquoted-widget" (.comb .ancestor (.type "blockQuote") (.type "widget"))
    (saying ["Blockquoted widget:", "widgets should not be indented."])

end DocLint.Catalogue

import DocLint.Catalogue.Basic
/-!
# Built-in rules about fields

Rules that look at what nodes hold besides text: descriptions and targets, cells
of tables, and formulas.
-/

namespace DocLint.Catalogue

/-- Images should be described. -/
def imageAltText (config : Config) : Rule :=
  rule "image-alt-text" (.type "image") <| .ask fun nodes _ => do
    match filledText? (← field nodes 0 "alt") with
    | none =>
      return report ["Images should have alt text:",
        "for accessibility, all images should have alt text.",
        "Specify alt text inside square brackets after the !."]
    | some alt =>
      if alt.length < config.minAltTextLength.value then
        return report ["Images should have alt text:",
          "for accessibility, all images should have descriptive alt text.",
          "This image's alt text is only " ++ toString alt.length ++ " characters long."]
      else return nothing

/-- Links to the platform should be relative. -/
def absoluteUrl (config : Config) : Rule :=
  rule "absolute-url" (.list [.type "link", .type "image"]) <| .ask fun nodes _ => do
    match text? (← field nodes (nodes.length - 1) "target") with
    | none => return nothing
    | some url =>
      if config.domainPolicy.allows url then return nothing
      else
        return report ["Absolute URL:", "Don't use absolute URLs for links to this site.",
          "Use a relative URL beginning with / instead."]

/-- The rows of a table should have as many cells as its header. -/
def tableMissingCells : Rule :=
  rule "table-missing-cells" (.type "table") <| .ask fun nodes _ => do
    let header ← field nodes 0 "header"
    let cells ← field nodes 0 "cells"
    let s := (← get).store
    match s.items? header, s.items? cells with
    | some columns, some rows =>
      let fits (row : Ref) : Bool := (s.items? row).any (·.length == columns.length)
      if rows.all fits then return nothing
      else
        return report ["Table rows are missing cells:",
          "every row of this table should have " ++ toString columns.length ++
            " cells, like its header row."]
    | _, _ =>
      modify fun session => session.report "malformed-table"
        (session.typeOf (nodes.headD .null)) (.str "Table node has no header or cells list")
      return nothing

/-- A formula should not be empty. -/
def mathEmpty : Rule :=
  rule "math-empty" (.type "math") <| .ask fun nodes _ => do
    match filledText? (← field nodes 0 "content") with
    | none => return report ["Empty math:", "don't use $$ in your markdown."]
    | some _ => return nothing

end DocLint.Catalogue

import DocLint.Catalogue.Fields
import DocLint.Catalogue.Outline
import DocLint.Catalogue.Wording
/-!
# The built-in rules

The rules that documents are checked against if no others are given. Their order
is the order of the findings at a node.
-/

namespace DocLint.Catalogue

/-- The built-in rules under a configuration. -/
def rules (config : Config) : List Rule :=
  [longParagraph config, headingLevel config, headingLevelSkip, headingTitleCase,
    headingSentenceCase, imageAltText config, linkClickHere config, absoluteUrl config,
    tableMissingCells, nestedLists, blockquotedMath, blockquotedWidget, unescapedDollar,
    mathEmpty, doubleSpacing]

/-- The built-in rules under the default configuration. -/
def defaultRules : List Rule := rules .default

end DocLint.Catalogue

import DocLint.Catalogue.Basic
/-!
# Built-in rules about wording

Rules that look at the text of paragraphs, headings and links, at what is left of
formulas, and at spacing.
-/

namespace DocLint.Catalogue

/-- Paragraphs should not be long. -/
def longParagraph (config : Config) : Rule :=
  let limit := config.maxParagraphLength
  rule "long-paragraph" (.type "paragraph") <| .ask fun _ found => do
    let length := found.text.length
    if limit.value < length then
      return report ["Paragraph too long:",
        "This paragraph is " ++ toString length ++ " characters long.",
        "Shorten it to " ++ limit.toTree.text ++ " characters or fewer."]
    else return nothing

/-- A capitalized word that is neither the first one nor behind a colon. Words
in capitals throughout do not count. -/
def titleCase : Regex := .ofSource "[^\\s:]\\s+[A-Z]+[a-z]" (by decide +kernel)

/-- Headings should not be in title-case. -/
def headingTitleCase : Rule :=
  rule "heading-title-case" (.type "heading")
    (saying ["Title-case heading:",
      "This heading appears to be in title-case, but should be sentence-case.",
      "Only capitalize the first letter and proper nouns."])
    titleCase

/-- A first letter that is not a capital. -/
def lowerStart : Regex := .ofSource "^\\W*[a-z]" (by decide +kernel)

/-- Headings should start with a capital letter. -/
def headingSentenceCase : Rule :=
  rule "heading-sentence-case" (.type "heading")
    (saying ["First letter is lowercase:", "the first letter of a heading should be capitalized."])
    lowerStart

/-- The text of a link should say where it leads. -/
def linkClickHere (config : Config) : Rule :=
  rule "link-click-here" (.type "link") <| .ask fun _ found => do
    let text := Text.normalizeBlanks (Text.lower found.text)
    if config.genericLinkPhrases.contains text then
      return report ["Inappropriate link text:",
        "Do not use the words \"" ++ text ++ "\" in links.",
        "Link text should describe where the link goes."]
    else return nothing

/-- A dollar sign in running text should be escaped. -/
def unescapedDollar : Rule :=
  rule "unescaped-dollar" (.type "unescapedDollar")
    (saying ["Unescaped '$':", "If writing math, pair with another $.",
      "Otherwise escape it by writing \\$."])

/-- A sentence that ends before two spaces or more. -/
def wideSpacing : Regex := .ofSource "[.!?] {2,}" (by decide +kernel)

/-- One space ends a sentence. -/
def doubleSpacing : Rule :=
  rule "double-spacing-after-terminal" Rule.defaultSelector
    (saying ["Use a single space after a sentence-ending punctuation mark:",
      "don't use two spaces after a period, question mark or exclamation mark."])
    wideSpacing

end DocLint.Catalogue

/-!
# Names of characters

An expression may refer to a character by name. Which names there are is laid down
elsewhere, in tables that grow with every edition, so it is a parameter here,
`CharacterNames`: what is shown of expressions and of selectors with text filters
is shown for any table.

Where no other table is given, the one of Latin-1 is in effect: the letters,
digits, marks and signs up to code point 255.
-/

namespace DocLint

/-- Is the character one of those that names are made of? -/
def isNameLetter (c : Char) : Bool := c.isAlphanum || c == ' ' || c == '-'

/-- Which characters have names. -/
class CharacterNames where
  /-- The character of a name; `none` if no single character has it. -/
  called? : String → Option Char
  /-- Names are made of letters, digits, spaces and hyphens. -/
  isNameLetter_of_called {name : String} {c : Char} (h : called? name = some c) :
    ∀ d ∈ name.toList, isNameLetter d = true

namespace CharacterNames

/-- The plain letters of a form, by name. -/
def plainLetters (form : String) : List String :=
  "ABCDEFGHIJKLMNOPQRSTUVWXYZ".toList.map fun c =>
    "LATIN " ++ form ++ " LETTER " ++ String.singleton c

/-- The other letters of a form, by name, with the sign that stands among them. -/
def otherLetters (form sign : String) : List String :=
  let letter := fun name => "LATIN " ++ form ++ " LETTER " ++ name
  ["A WITH GRAVE", "A WITH ACUTE", "A WITH CIRCUMFLEX", "A WITH TILDE", "A WITH DIAERESIS",
    "A WITH RING ABOVE", "AE", "C WITH CEDILLA", "E WITH GRAVE", "E WITH ACUTE",
    "E WITH CIRCUMFLEX", "E WITH DIAERESIS", "I WITH GRAVE", "I WITH ACUTE", "I WITH CIRCUMFLEX",
    "I WITH DIAERESIS", "ETH", "N WITH TILDE", "O WITH GRAVE", "O WITH ACUTE",
    "O WITH CIRCUMFLEX", "O WITH TILDE", "O WITH DIAERESIS"].map letter ++ [sign] ++
  ["O WITH STROKE", "U WITH GRAVE", "U WITH ACUTE", "U WITH CIRCUMFLEX", "U WITH DIAERESIS",
    "Y WITH ACUTE", "THORN"].map letter

/-- The names from some code points on, one character after the other. -/
def latinRuns : List (Nat × List String) :=
  [(0x20, ["SPACE", "EXCLAMATION MARK", "QUOTATION MARK", "NUMBER SIGN", "DOLLAR SIGN",
      "PERCENT SIGN", "AMPERSAND", "APOSTROPHE", "LEFT PARENTHESIS", "RIGHT PARENTHESIS",
      "ASTERISK", "PLUS SIGN", "COMMA", "HYPHEN-MINUS", "FULL STOP", "SOLIDUS", "DIGIT ZERO",
      "DIGIT ONE", "DIGIT TWO", "DIGIT THREE", "DIGIT FOUR", "DIGIT FIVE", "DIGIT SIX",
      "DIGIT SEVEN", "DIGIT EIGHT", "DIGIT NINE", "COLON", "SEMICOLON", "LESS-THAN SIGN",
      "EQUALS SIGN", "GREATER-THAN SIGN", "QUESTION MARK", "COMMERCIAL AT"]),
    (0x41, plainLetters "CAPITAL"),
    (0x5B, ["LEFT SQUARE BRACKET", "REVERSE SOLIDUS", "RIGHT SQUARE BRACKET", "CIRCUMFLEX ACCENT",
      "LOW LINE", "GRAVE ACCENT"]),
    (0x61, plainLetters "SMALL"),
    (0x7B, ["LEFT CURLY BRACKET", "VERTICAL LINE", "RIGHT CURLY BRACKET", "TILDE"]),
    (0xA0, ["NO-BREAK SPACE", "INVERTED EXCLAMATION MARK", "CENT SIGN", "POUND SIGN",
      "CURRENCY SIGN", "YEN SIGN", "BROKEN BAR", "SECTION SIGN", "DIAERESIS", "COPYRIGHT SIGN",
      "FEMININE ORDINAL INDICATOR", "LEFT-POINTING DOUBLE ANGLE QUOTATION MARK", "NOT SIGN",
      "SOFT HYPHEN", "REGISTERED SIGN", "MACRON", "DEGREE SIGN", "PLUS-MINUS SIGN",
      "SUPERSCRIPT TWO", "SUPERSCRIPT THREE", "ACUTE ACCENT", "MICRO SIGN", "PILCROW SIGN",
      "MIDDLE DOT", "CEDILLA", "SUPERSCRIPT ONE", "MASCULINE ORDINAL INDICATOR",
      "RIGHT-POINTING DOUBLE ANGLE QUOTATION MARK", "VULGAR FRACTION ONE QUARTER",
      "VULGAR FRACTION ONE HALF", "VULGAR FRACTION THREE QUARTERS", "INVERTED QUESTION MARK"]),
    (0xC0, otherLetters "CAPITAL" "MULTIPLICATION SIGN"),
    (0xDF, ["LATIN SMALL LETTER SHARP S"]),
    (0xE0, otherLetters "SMALL" "DIVISION SIGN"),
    (0xFF, ["LATIN SMALL LETTER Y WITH DIAERESIS"])]

/-- The character of a name in some runs of names. -/
def inRuns? (name : String) : List (Nat × List String) → Option Char
  | [] => none
  | (first, names) :: rest =>
    match names.idxOf? name with
    | some place => some (Char.ofNat (first + place))
    | none => inRuns? name rest

/-- The names of Latin-1, in small or capital letters. -/
instance latin : CharacterNames where
  called? name :=
    if name.toList.all isNameLetter then inRuns? (name.map Char.toUpper) latinRuns else none
  isNameLetter_of_called h := by
    split at h
    · next hletters => exact List.all_eq_true.mp hletters
    · contradiction

end CharacterNames

end DocLint

import DocLint.Text.Ranges
/-!
# Blank characters

The white space of Unicode, together with the four information separators
`U+001C`-`U+001F`. `isBlank` decides the class; the zero width space and the
byte order mark are outside it.
-/

namespace DocLint.Text

/-- Code points of blank characters. -/
def blankRanges : CodeRanges :=
    [(0x09, 0x0D), (0x1C, 0x20), (0x85, 0x85), (0xA0, 0xA0), (0x1680, 0x1680), (0x2000, 0x200A),
    (0x2028, 0x2029), (0x202F, 0x202F), (0x205F, 0x205F), (0x3000, 0x3000)]

/-- Is `c` white space? -/
def isBlank (c : Char) : Bool := blankRanges.has c.toNat

end DocLint.Text

import StyleTags.Text.Ranges

/-!
# Blank characters

A character is blank when it has the Unicode property White_Space; neither the zero-width
space nor the byte order mark has it.  `trim` takes the blanks off both ends of a text.
-/

namespace StyleTags.Text

/-- The code points with the property White_Space. -/
def blanks : Ranges :=
  [ (0x9, 0xD), (0x20, 0x20), (0x85, 0x85), (0xA0, 0xA0), (0x1680, 0x1680), (0x2000, 0x200A),
    (0x2028, 0x2029), (0x202F, 0x202F), (0x205F, 0x205F), (0x3000, 0x3000) ]

/-- Whether a character is blank. -/
def isBlank (c : Char) : Bool :=
  blanks.contains c

/-- A text without the blanks at its ends. -/
def trim (text : List Char) : List Char :=
  ((text.dropWhile isBlank).reverse.dropWhile isBlank).reverse

end StyleTags.Text

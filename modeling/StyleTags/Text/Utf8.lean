/-!
# UTF-8

The bytes of a row of characters, as they leave the program.
-/

namespace StyleTags.Text

/-- The bytes of a row of characters in UTF-8. -/
def utf8 (chars : List Char) : List UInt8 :=
  chars.flatMap String.utf8EncodeChar

theorem utf8_append (a b : List Char) :
  utf8 (a ++ b) = utf8 a ++ utf8 b
  := List.flatMap_append

end StyleTags.Text

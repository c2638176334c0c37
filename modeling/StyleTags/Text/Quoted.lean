import StyleTags.Text.Combining
import StyleTags.Text.Invisible

/-!
# Quoted text

`quote` writes a text between double quotes so that every character of it can be seen: the
quote, the backslash and the common control characters by a letter, all other characters
that leave no mark or only extend their neighbour by their code point, and the rest as they
are.
-/

namespace StyleTags.Text

/-- A code point in braces, in as few lower-case hexadecimal digits as it takes. -/
def escapeCode (c : Char) : List Char :=
  ['\\', 'u', '{'] ++ Nat.toDigits 16 c.toNat ++ ['}']

/-- A character as it stands in a quoted text. -/
def escape (c : Char) : List Char :=
  if c = '"' then ['\\', '"']
  else if c = '\\' then ['\\', '\\']
  else if c = '\n' then ['\\', 'n']
  else if c = '\r' then ['\\', 'r']
  else if c = '\t' then ['\\', 't']
  else if c = '\x00' then ['\\', '0']
  else if isCombining c || isInvisible c then escapeCode c
  else [c]

/-- A text between double quotes, every character of it visible. -/
def quote (text : List Char) : List Char :=
  '"' :: (text.flatMap escape ++ ['"'])

end StyleTags.Text

/-!
# Escape sequences

The characters that a terminal takes for commands, and the sequence that selects a graphic
rendition.  In a template these characters are spelled by letters.
-/

namespace StyleTags.Escape

/-- The character that begins an escape sequence. -/
def esc : Char := '\x1b'

/-- The character that rings the bell. -/
def bell : Char := '\x07'

/-- A number in decimal digits. -/
def digits (n : Nat) : List Char :=
  Nat.toDigits 10 n

/-- The sequence that selects a graphic rendition by its parameters. -/
def rendition (parameters : List Nat) : List Char :=
  esc :: '[' :: ([';'].intercalate (parameters.map digits) ++ ['m'])

/-- A template written out: the letter `e` stands for the escape character, the letter `b`
for the bell, and every other character for itself. -/
def ofTemplate (template : String) : String :=
  template.map fun c => if c = 'e' then esc else if c = 'b' then bell else c

end StyleTags.Escape

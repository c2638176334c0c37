import StyleTags.Escape

/-!
# Terminal control

The commands that move the cursor, clear the screen and the like, with the sequences that a
terminal takes for them.
-/

namespace StyleTags

/-- A command to a terminal. -/
inductive Control where
  /-- The screen is cleared. -/
  | erase
  /-- The cursor is moved; columns and rows are counted from zero. -/
  | cursorTo (column row : Nat)
  /-- The cursor is shown or hidden. -/
  | cursorVisible (visible : Bool)
  /-- The window is given a title. -/
  | title (text : String)
  /-- All colors and attributes are given up. -/
  | plainRendition
  /-- The bell is rung. -/
  | bell
  deriving DecidableEq, Repr

namespace Control

/-- The characters that carry a command.  On the wire columns and rows are counted from
one, the row first. -/
def sequence : Control → List Char
  | .erase => [Escape.esc, '[', '2', 'J']
  | .cursorTo column row =>
    [Escape.esc, '['] ++ Escape.digits (row + 1) ++ [';'] ++ Escape.digits (column + 1) ++ ['H']
  | .cursorVisible true => [Escape.esc, '[', '?', '2', '5', 'h']
  | .cursorVisible false => [Escape.esc, '[', '?', '2', '5', 'l']
  | .title text => [Escape.esc, ']', '0', ';'] ++ text.toList ++ [Escape.bell]
  | .plainRendition => Escape.rendition [0]
  | .bell => [Escape.bell]

/-- The commands that clear the screen and send the cursor home. -/
def clearing : List Control :=
  [.erase, .cursorTo 0 0]

end Control

end StyleTags

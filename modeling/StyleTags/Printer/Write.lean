import StyleTags.Printer.Control
import StyleTags.Renderer.Basic

/-!
# What a printer writes

Marked-up text, plain values, and commands to the terminal.  `Write.output` makes the runs
of characters that a write consists of; it depends on the write and on the renderer, and on
nothing that happens where they are written to.
-/

namespace StyleTags

/-- A value that is written as it is, without regard to tags. -/
inductive Plain where
  | text (value : String)
  | number (value : Int)
  | truth (value : Bool)
  deriving DecidableEq, Repr

/-- The characters of a value. -/
def Plain.chars : Plain → List Char
  | .text value => value.toList
  | .number (.ofNat n) => Escape.digits n
  | .number (.negSucc n) => '-' :: Escape.digits (n + 1)
  | .truth true => ['t', 'r', 'u', 'e']
  | .truth false => ['f', 'a', 'l', 's', 'e']

/-- Something to be written. -/
inductive Write where
  /-- Marked-up text, with or without a line end after it. -/
  | markup (text : String) (newline : Bool)
  /-- A value as it is, with or without a line end after it. -/
  | plain (value : Plain) (newline : Bool)
  /-- Commands to the terminal. -/
  | control (commands : List Control)
  deriving DecidableEq, Repr

namespace Write

/-- The line end, where one is asked for. -/
def lineEnd (newline : Bool) : List (List Char) :=
  if newline then [['\n']] else []

/-- The runs of characters that a write consists of, in order. -/
def output (r : Renderer) : Write → Outcome Renderer (List (List Char))
  | .markup text newline => (r.render text).map fun shown => shown.toList :: lineEnd newline
  | .plain value newline => ⟨value.chars :: lineEnd newline, r, []⟩
  | .control commands => ⟨commands.map Control.sequence, r, []⟩

end Write

end StyleTags

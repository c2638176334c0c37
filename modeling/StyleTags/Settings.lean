import StyleTags.Delimiter
import StyleTags.Mode

/-!
# Settings

What a rendering depends on besides the text: the delimiters and the mode.
-/

namespace StyleTags

/-- The delimiters and the mode of a rendering. -/
structure Settings where
  delimiters : Delimiters
  mode : Mode
  deriving DecidableEq

namespace Settings

/-- The settings used where no others are asked for. -/
def standard : Settings :=
  ⟨.brackets, .interpret⟩

/-- The settings with another mode. -/
def inMode (s : Settings) (mode : Mode) : Settings :=
  { s with mode }

/-- The settings with the delimiters that two texts spell. -/
def between (s : Settings) (opening closing : String) :
    Except DelimiterError Settings :=
  (Delimiters.ofStrings opening closing).map fun delimiters => { s with delimiters }

/-- The opening delimiter as a string. -/
def opening (s : Settings) : String :=
  s.delimiters.opening.text

/-- The closing delimiter as a string. -/
def closing (s : Settings) : String :=
  s.delimiters.closing.text

end Settings

end StyleTags

import StyleTags.Text.Blank

/-!
# Modes

The mode decides what becomes of the tags of a text.  `Mode.ofString` reads a mode by its
name, whatever the case of its letters and whatever blanks stand around it.
-/

namespace StyleTags

/-- What becomes of the tags of a text. -/
inductive Mode where
  /-- A tag is replaced by its escape sequence. -/
  | interpret
  /-- The text is left alone, tags and all. -/
  | ignore
  /-- A tag that has an escape sequence is dropped. -/
  | remove
  deriving DecidableEq, Repr

/-- A text that names no mode. -/
structure UnknownMode where
  text : String
  deriving DecidableEq, Repr

/-- The wording of a refusal. -/
def UnknownMode.message (e : UnknownMode) : String :=
  "unknown render mode: " ++ e.text

namespace Mode

/-- The name of a mode. -/
def name : Mode → String
  | .interpret => "interpret"
  | .ignore => "ignore"
  | .remove => "remove"

/-- All modes. -/
def all : List Mode :=
  [.interpret, .ignore, .remove]

/-- The mode that a text names. -/
def ofString (text : String) : Except UnknownMode Mode :=
  let word := (Text.trim text.toList).map Char.toLower
  match all.find? fun mode => mode.name.toList = word with
  | some mode => .ok mode
  | none => .error ⟨text⟩

end Mode

end StyleTags

import StyleTags.Codebook.Basic
import StyleTags.Piece
import StyleTags.Settings

/-!
# The renderer

A renderer turns marked-up text into text for a terminal.  It carries the settings in force
and a codebook, which grows as tags are met.  A plain run is copied.  A tag that has an
escape sequence becomes that sequence, or nothing where tags are removed; a tag that has
none stays as it was written.
-/

namespace StyleTags

/-- What a row of pieces becomes, with the codebook after it. -/
def Codebook.render (d : Delimiters) (mode : Mode) (book : Codebook) :
    List Piece → Outcome Codebook (List Char)
  | [] => ⟨[], book, []⟩
  | .plain text :: pieces => (render d mode book pieces).map (text ++ ·)
  | .tag name :: pieces =>
    let met := book.consult (String.ofList name)
    let after := render d mode met.state pieces
    let shown :=
      match met.answer with
      | .ok escape => if mode = .interpret then escape.toList else []
      | .error _ => d.source (.tag name)
    ⟨shown ++ after.answer, after.state, met.events ++ after.events⟩

/-- The settings in force and the names met so far. -/
structure Renderer where
  book : Codebook
  settings : Settings

namespace Renderer

/-- A renderer with the given settings. -/
def ofSettings (settings : Settings) : Renderer :=
  ⟨.initial, settings⟩

/-- A renderer with the standard settings. -/
def standard : Renderer :=
  ofSettings .standard

/-- A renderer with the delimiters that two texts spell.  If they spell none, both standard
delimiters are used. -/
def start (opening closing : String) (mode : Mode) : Outcome Unit Renderer :=
  match Delimiters.ofStrings opening closing with
  | .ok delimiters => ⟨ofSettings ⟨delimiters, mode⟩, (), []⟩
  | .error _ => ⟨ofSettings ⟨.brackets, mode⟩, (), [.delimitersReplaced]⟩

/-- The text as it is shown in a mode.  A text that is left alone is not looked into. -/
def renderAs (r : Renderer) (mode : Mode) (text : String) : Outcome Renderer String :=
  if mode = .ignore then
    ⟨text, r, []⟩
  else
    let d := r.settings.delimiters
    ((r.book.render d mode (d.pieces text.toList)).map String.ofList).lift
      fun book => { r with book }

/-- The text as it is shown in the mode in force. -/
def render (r : Renderer) (text : String) : Outcome Renderer String :=
  r.renderAs r.settings.mode text

/-- The text without its tags. -/
def unmark (r : Renderer) (text : String) : Outcome Renderer String :=
  r.renderAs .remove text

/-- The escape sequence of a name. -/
def look (r : Renderer) (name : String) : Outcome Renderer (Except TagError String) :=
  (r.book.consult name).lift fun book => { r with book }

/-- Another mode is put in force. -/
def useMode (r : Renderer) (mode : Mode) : Outcome Renderer Unit :=
  ⟨(), { r with settings := r.settings.inMode mode }, [.modeSet mode]⟩

/-- Other delimiters are put in force, if two texts spell them. -/
def useDelimiters (r : Renderer) (opening closing : String) :
    Outcome Renderer (Except DelimiterError Unit) :=
  match Delimiters.ofStrings opening closing with
  | .ok delimiters =>
    ⟨.ok (), { r with settings := { r.settings with delimiters } },
      [.delimitersSet delimiters]⟩
  | .error e => ⟨.error e, r, []⟩

end Renderer

end StyleTags

import StyleTags.Printer.Write
import StyleTags.Sink
import StyleTags.Text.Utf8

/-!
# The printer

A printer writes through a renderer to a sink.  It first makes the runs of characters that
it has to write, and only then puts them into the sink, one after the other; a failing sink
therefore never keeps the renderer from its work.
-/

namespace StyleTags

/-- A renderer and the sink that its text goes to. -/
structure Printer where
  renderer : Renderer
  sink : Sink := {}

namespace Printer

/-- Something is written. -/
def write (p : Printer) (what : Write) : Outcome Printer (Except SinkError Unit) :=
  let made := what.output p.renderer
  let (result, sink) := p.sink.putEach (made.answer.map Text.utf8)
  ⟨result, ⟨made.state, sink⟩, made.events⟩

/-- The sink is flushed. -/
def flush (p : Printer) : Outcome Printer (Except SinkError Unit) :=
  let (result, sink) := p.sink.flush
  ⟨result, { p with sink }, []⟩

/-- The wording of a failed write. -/
def failure (e : SinkError) : String :=
  "Terminal error: " ++ e.message

/-- The name of a mode as a description gives it. -/
def modeLabel : Mode → String
  | .interpret => "Interpret"
  | .ignore => "Ignore"
  | .remove => "Remove"

/-- The description of a printer by its settings, on one line or over several. -/
def description (p : Printer) (pretty : Bool) : String :=
  let opening := Event.quoted p.renderer.settings.opening
  let closing := Event.quoted p.renderer.settings.closing
  let mode := modeLabel p.renderer.settings.mode
  if pretty then
    "Console \x7b\n    config: MarkupConfig \x7b\n        prefix: " ++ opening
      ++ ",\n        suffix: " ++ closing ++ ",\n        mode: " ++ mode
      ++ ",\n    \x7d,\n    ..\n\x7d"
  else
    "Console \x7b config: MarkupConfig \x7b prefix: " ++ opening ++ ", suffix: " ++ closing
      ++ ", mode: " ++ mode ++ " \x7d, .. \x7d"

end Printer

end StyleTags

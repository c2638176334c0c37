import StyleTags.Printer.Basic
import StyleTags.Renderer.Call

/-!
# Calls on a printer

What can be asked of a printer, as data.
-/

namespace StyleTags.Printer

/-- What can be asked of a printer. -/
inductive Call where
  | write (what : Write)
  | flush
  | describe (pretty : Bool)
  /-- A call on the printer's renderer. -/
  | renderer (call : Renderer.Call)
  deriving DecidableEq, Repr

/-- What a printer answers. -/
inductive Answer where
  | written (result : Except SinkError Unit)
  | description (text : String)
  | renderer (answer : Renderer.Answer)

/-- A call is carried out. -/
def perform (p : Printer) : Call → Outcome Printer Answer
  | .write what => (p.write what).map .written
  | .flush => p.flush.map .written
  | .describe pretty => ⟨.description (p.description pretty), p, []⟩
  | .renderer call =>
    ((p.renderer.perform call).map .renderer).lift fun renderer => { p with renderer }

end StyleTags.Printer

import StyleTags.Codebook.Call
import StyleTags.Renderer.Basic

/-!
# Calls on a renderer

What can be asked of a renderer, as data.
-/

namespace StyleTags.Renderer

/-- What can be asked of a renderer. -/
inductive Call where
  | render (text : String)
  | renderAs (mode : Mode) (text : String)
  | unmark (text : String)
  | look (name : String)
  | mode
  | useMode (mode : Mode)
  | delimiters
  | useDelimiters (opening closing : String)
  | settings
  /-- A call on the renderer's codebook. -/
  | book (call : Codebook.Call)
  deriving DecidableEq, Repr

/-- What a renderer answers. -/
inductive Answer where
  | done
  | text (value : String)
  | resolved (result : Except TagError String)
  | mode (value : Mode)
  | delimiters (value : Delimiters)
  | refused (reason : DelimiterError)
  | settings (value : Settings)
  | book (answer : Codebook.Answer)

/-- The answer to the setting of delimiters. -/
def Answer.ofSetting : Except DelimiterError Unit → Answer
  | .ok () => .done
  | .error e => .refused e

/-- A call is carried out. -/
def perform (r : Renderer) : Call → Outcome Renderer Answer
  | .render text => (r.render text).map .text
  | .renderAs mode text => (r.renderAs mode text).map .text
  | .unmark text => (r.unmark text).map .text
  | .look name => (r.look name).map .resolved
  | .mode => ⟨.mode r.settings.mode, r, []⟩
  | .useMode mode => (r.useMode mode).map fun () => .done
  | .delimiters => ⟨.delimiters r.settings.delimiters, r, []⟩
  | .useDelimiters opening closing => (r.useDelimiters opening closing).map .ofSetting
  | .settings => ⟨.settings r.settings, r, []⟩
  | .book call => ((r.book.perform call).map .book).lift fun book => { r with book }

end StyleTags.Renderer

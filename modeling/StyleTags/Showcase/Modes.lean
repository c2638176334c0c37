import StyleTags.Host
import StyleTags.Text.Padding

/-!
# The showcase of modes

A program that shows one marked-up line in each mode, and then uses a renderer of its own
whose delimiters are braces.
-/

namespace StyleTags.Showcase

/-- The line that is shown. -/
def line : String :=
  "[bold]deploy[unbold] [fg:0:4:0]ok[normal] [[red]3 warnings[normal]] [todo]"

/-- A line of the standard output, written as it is. -/
def showPlain (h : Host) (text : String) : Host :=
  (h.withPrinter .standard (·.write (.plain (.text text) true))).1

/-- The line in one of the modes, as a terminal shows it and as it is spelled. -/
def showMode (h : Host) (mode : Mode) : Host :=
  let (h, shown) := h.withRenderer (·.renderAs mode line)
  let label := "[bold]" ++ Text.padLeft 9 mode.name ++ "[unbold]: "
  let (h, _) := h.withPrinter .standard (·.write (.markup label false))
  let h := showPlain h shown
  showPlain h (Text.padLeft 9 "" ++ "  " ++ Event.quoted shown)

/-- Braces as delimiters. -/
def braces : Delimiters :=
  ⟨⟨['{'], by simp⟩, ⟨['}'], by simp⟩⟩

/-- Two lines by way of a renderer with braces: tags in brackets mean nothing to it. -/
def showBraces (h : Host) : Host :=
  let own : Printer := ⟨.ofSettings ⟨braces, .interpret⟩, h.out⟩
  let text := "\x7binverse\x7d braces \x7buninverse\x7d [red]left alone"
  let first := own.write (.markup text true)
  let stripped := first.state.renderer.unmark "\x7bunderline\x7dstripped\x7bununderline\x7d"
  let second := (⟨stripped.state, first.state.sink⟩ : Printer).write
    (.plain (.text stripped.answer) true)
  { h with out := second.state.sink }

/-- The program. -/
def modes (h : Host) : Host :=
  showBraces ([Mode.interpret, .remove, .ignore].foldl showMode h)

end StyleTags.Showcase

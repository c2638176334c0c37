import StyleTags.Journal.Basic
import StyleTags.Printer.Call
import StyleTags.Settings.Environment

/-!
# The host

What all parts of a running program share: its environment, its journal, its two output
streams, and one renderer.  The renderer is made from the environment by the first call
that needs it, so that whether its making is logged depends on what came before.
-/

namespace StyleTags

/-- The two streams that a program writes to. -/
inductive Outlet where
  | standard
  | error
  deriving DecidableEq, Repr

/-- The shared state of a program. -/
structure Host where
  environment : Environment
  /-- The shared renderer, once it is made. -/
  renderer : Option Renderer := none
  journal : Journal := {}
  out : Sink := {}
  err : Sink := {}

namespace Host

/-- What a program can do with what it shares. -/
inductive Call where
  | installLogger (file : LogFile) (level : Level)
  | muteLogger
  /-- An event of the program's own. -/
  | note (level : Level) (source text : String)
  | renderer (call : Renderer.Call)
  /-- A call on a printer over one of the streams, which is flushed afterwards. -/
  | printer (outlet : Outlet) (call : Printer.Call)
  deriving DecidableEq, Repr

/-- What a host answers. -/
inductive Answer where
  | done
  | refused (reason : JournalError)
  | ceiling (level : Option Level)
  | renderer (answer : Renderer.Answer)
  | printer (answer : Printer.Answer)

/-- The shared renderer, made from the environment if it is not yet there. -/
def shared (h : Host) : Outcome Host Renderer :=
  match h.renderer with
  | some r => ⟨r, h, []⟩
  | none =>
    let chosen := Settings.ofEnvironment h.environment
    let made := Renderer.start chosen.answer.opening chosen.answer.closing chosen.answer.mode
    ⟨made.answer, { h with renderer := some made.answer }, chosen.events ++ made.events⟩

/-- The sink behind a stream. -/
def sink (h : Host) : Outlet → Sink
  | .standard => h.out
  | .error => h.err

/-- The host with another sink behind a stream. -/
def withSink (h : Host) (sink : Sink) : Outlet → Host
  | .standard => { h with out := sink }
  | .error => { h with err := sink }

/-- Work done with the shared renderer. -/
def withRenderer {α : Type} (h : Host) (work : Renderer → Outcome Renderer α) : Host × α :=
  let start := h.shared
  let came := work start.answer
  ({ start.state with
      renderer := some came.state,
      journal := h.journal.recordAll (start.events ++ came.events) },
    came.answer)

/-- Work done with a printer over a stream, which is flushed afterwards. -/
def withPrinter {α : Type} (h : Host) (outlet : Outlet)
    (work : Printer → Outcome Printer α) : Host × α :=
  let start := h.shared
  let came := work ⟨start.answer, start.state.sink outlet⟩
  let (_, flushed) := came.state.sink.flush
  let host := start.state.withSink flushed outlet
  ({ host with
      renderer := some came.state.renderer,
      journal := h.journal.recordAll (start.events ++ came.events) },
    came.answer)

/-- A call is carried out. -/
def perform (h : Host) : Call → Host × Answer
  | .installLogger file level =>
    match h.journal.install file level with
    | .ok journal => ({ h with journal }, .done)
    | .error e => (h, .refused e)
  | .muteLogger => ({ h with journal := h.journal.mute }, .done)
  | .note level source text =>
    let journal := h.journal.record (.note level source text)
    ({ h with journal }, .ceiling journal.ceiling)
  | .renderer call =>
    let (h, answer) := h.withRenderer (·.perform call)
    (h, .renderer answer)
  | .printer outlet call =>
    let (h, answer) := h.withPrinter outlet (·.perform call)
    (h, .printer answer)

/-- Calls are carried out one after the other. -/
def performAll (h : Host) (calls : List Call) : Host :=
  calls.foldl (fun h call => (h.perform call).1) h

end Host

end StyleTags

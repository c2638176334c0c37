import StyleTags.Delimiter
import StyleTags.Mode
import StyleTags.Paint.Spelling

/-!
# Events

What the library has to report.  An event has a level, which says how grave it is, a source
and a message; together they make one line of a log.  `Outcome` is what a step of work
comes to: its answer, the state it leaves, and the events it reports.
-/

namespace StyleTags

/-- How grave an event is, the gravest first. -/
inductive Level where
  | error
  | warn
  | info
  | debug
  | trace
  deriving DecidableEq, Repr

namespace Level

/-- The place of a level in the order of gravity. -/
def rank : Level → Nat
  | .error => 1
  | .warn => 2
  | .info => 3
  | .debug => 4
  | .trace => 5

/-- The name of a level. -/
def name : Level → String
  | .error => "ERROR"
  | .warn => "WARN"
  | .info => "INFO"
  | .debug => "DEBUG"
  | .trace => "TRACE"

end Level

/-- Something worth a line in a log. -/
inductive Event where
  /-- The escape sequence of a tag was worked out. -/
  | derived (tag escape : String)
  /-- A tag was refused. -/
  | refused (tag : String) (reason : TagError)
  /-- The mode was set. -/
  | modeSet (mode : Mode)
  /-- The delimiters were set. -/
  | delimitersSet (delimiters : Delimiters)
  /-- An empty delimiter was given, and the standard ones are used. -/
  | delimitersReplaced
  /-- The environment asks for a mode that is none. -/
  | modeIgnored (reason : UnknownMode)
  /-- A note of the program that uses the library. -/
  | note (level : Level) (source text : String)

namespace Event

/-- How grave an event is. -/
def level : Event → Level
  | .derived .. => .trace
  | .refused .. | .modeSet .. | .delimitersSet .. => .debug
  | .delimitersReplaced | .modeIgnored .. => .warn
  | .note level .. => level

/-- The part of the library that an event comes from. -/
def source : Event → String
  | .derived .. | .refused .. => "markup::resolver"
  | .modeSet .. | .delimitersSet .. | .delimitersReplaced => "markup::translator"
  | .modeIgnored .. => "markup::config"
  | .note _ source _ => source

/-- A string between double quotes. -/
def quoted (s : String) : String :=
  String.ofList (Text.quote s.toList)

/-- The wording of an event. -/
def message : Event → String
  | .derived tag escape => "derived markup code " ++ quoted tag ++ " -> " ++ quoted escape
  | .refused tag reason => "rejecting markup token " ++ quoted tag ++ ": " ++ reason.message
  | .modeSet mode => "markup render mode set to " ++ mode.name
  | .delimitersSet d =>
    "markup delimiters set to " ++ quoted d.opening.text ++ " " ++ quoted d.closing.text
  | .delimitersReplaced => "empty markup delimiter, falling back to defaults"
  | .modeIgnored reason => "ignoring ANSI_MARKUP_MODE: " ++ reason.message
  | .note _ _ text => text

/-- An event as it stands in a log. -/
def line (e : Event) : String :=
  "[" ++ e.level.name ++ "] " ++ e.source ++ ": " ++ e.message ++ "\n"

end Event

/-- What a step of work comes to. -/
structure Outcome (σ α : Type) where
  answer : α
  state : σ
  events : List Event := []

/-- The outcome with its answer changed. -/
def Outcome.map {σ α β : Type} (f : α → β) (o : Outcome σ α) : Outcome σ β :=
  ⟨f o.answer, o.state, o.events⟩

/-- The outcome with its state put into a larger one. -/
def Outcome.lift {σ τ α : Type} (f : σ → τ) (o : Outcome σ α) : Outcome τ α :=
  ⟨o.answer, f o.state, o.events⟩

end StyleTags

import StyleTags.Journal.Event

/-!
# The journal

The journal of a program appends the events it is told of to a log file, once a logger is
installed.  A logger is installed once and for all: a second installation is refused and
changes nothing.  Besides the level of the logger there is a level in force, which an
installation sets to that of the logger and a silencing sets to none; an event is written
when it passes both.
-/

namespace StyleTags

/-- A file that events are appended to.  Where it cannot be opened they are lost. -/
structure LogFile where
  path : String
  opens : Bool := true
  deriving DecidableEq, Repr

/-- Where events go, and how grave they have to be. -/
structure Logger where
  file : LogFile
  level : Level
  deriving DecidableEq, Repr

/-- A line that was appended to a file. -/
structure Entry where
  path : String
  line : String
  deriving DecidableEq, Repr

/-- The state of a program's log. -/
structure Journal where
  /-- The logger, once there is one. -/
  logger : Option Logger := none
  /-- The level in force; no event passes where there is none. -/
  ceiling : Option Level := none
  /-- The lines written so far. -/
  entries : List Entry := []
  deriving DecidableEq, Repr

/-- The refusal of a second logger. -/
inductive JournalError where
  | alreadyInstalled
  deriving DecidableEq, Repr

/-- The wording of a refusal. -/
def JournalError.message : JournalError → String
  | .alreadyInstalled =>
    "Logger already installed: attempted to set a logger after "
      ++ "the logging system was already initialized"

namespace Journal

/-- A logger is installed, if there is none yet. -/
def install (j : Journal) (file : LogFile) (level : Level) : Except JournalError Journal :=
  match j.logger with
  | some _ => .error .alreadyInstalled
  | none => .ok { j with logger := some ⟨file, level⟩, ceiling := some level }

/-- From here on no event passes. -/
def mute (j : Journal) : Journal :=
  { j with ceiling := none }

/-- Whether a level lies within a bound; none does where there is no bound. -/
def within (level : Level) : Option Level → Bool
  | none => false
  | some bound => level.rank ≤ bound.rank

/-- The lines that an event adds. -/
def linesOf (j : Journal) (e : Event) : List Entry :=
  match j.logger with
  | none => []
  | some logger =>
    if within e.level j.ceiling && within e.level (some logger.level) && logger.file.opens then
      [⟨logger.file.path, e.line⟩]
    else
      []

/-- An event is told. -/
def record (j : Journal) (e : Event) : Journal :=
  { j with entries := j.entries ++ j.linesOf e }

/-- Events are told one after the other. -/
def recordAll (j : Journal) (events : List Event) : Journal :=
  events.foldl record j

/-- The journal of a program that logs to a file from its start. -/
def opened (file : LogFile) (level : Level) : Journal :=
  { logger := some ⟨file, level⟩, ceiling := some level }

end Journal

end StyleTags

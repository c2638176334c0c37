import StyleTags.Journal.Event
import StyleTags.Settings

/-!
# Settings from the environment

A program's environment can choose its settings.  `NO_COLOR`, set to anything, asks for
tags to be removed; a mode that is named outweighs it.  Each delimiter can be chosen by
itself, and an empty choice counts as none.
-/

namespace StyleTags

/-- The variables of a program: the value of each name that is set. -/
abbrev Environment : Type := String → Option String

/-- The environment that holds the given variables.  A value that is no UTF-8 text counts
as not set. -/
def Environment.ofVariables (values : List (String × ByteArray)) : Environment :=
  fun name => (values.lookup name).bind String.fromUTF8?

namespace Settings

/-- The mode chosen before any is named. -/
def colorMode (env : Environment) : Mode :=
  if (env "NO_COLOR").isSome then .remove else .interpret

/-- The mode that an environment chooses. -/
def modeFrom (env : Environment) : Outcome Unit Mode :=
  match env "ANSI_MARKUP_MODE" with
  | none => ⟨colorMode env, (), []⟩
  | some text =>
    match Mode.ofString text with
    | .ok mode => ⟨mode, (), []⟩
    | .error e => ⟨colorMode env, (), [.modeIgnored e]⟩

/-- The delimiter that a variable chooses, or else the standard one. -/
def delimiterFrom (env : Environment) (name : String) (standard : Delimiter) :
    Delimiter :=
  ((env name).bind Delimiter.ofString?).getD standard

/-- The settings that an environment chooses. -/
def ofEnvironment (env : Environment) : Outcome Unit Settings :=
  (modeFrom env).map fun mode =>
    { mode,
      delimiters :=
        { opening := delimiterFrom env "ANSI_MARKUP_PREFIX" Delimiters.brackets.opening,
          closing := delimiterFrom env "ANSI_MARKUP_SUFFIX" Delimiters.brackets.closing } }

end Settings

end StyleTags

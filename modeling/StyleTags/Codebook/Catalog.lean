import StyleTags.Escape

/-!
# The catalog

The names that have an escape sequence from the start: controls, the basic colors of both
layers, attributes, and a ramp of greys in both of their spellings.
-/

namespace StyleTags.Catalog

/-- The names with a template of their own. -/
def fixed : List (String × String) :=
  [ ("normal", "e[0m"), ("beep", "b"), ("null", ""), ("random", ""),
    ("black", "e[30m"), ("gray", "e[1;30m"), ("grey", "e[1;30m"), ("red", "e[31m"),
    ("green", "e[32m"), ("yellow", "e[33m"), ("blue", "e[34m"), ("purple", "e[35m"),
    ("magenta", "e[35m"), ("cyan", "e[36m"), ("white", "e[37m"),
    ("bgblack", "e[40m"), ("bgred", "e[41m"), ("bggreen", "e[42m"), ("bgyellow", "e[43m"),
    ("bgblue", "e[44m"), ("bgpurple", "e[45m"), ("bgmagenta", "e[45m"), ("bgcyan", "e[46m"),
    ("bggray", "e[47m"), ("bgwhite", "e[47m"), ("bggrey", "e[47m"),
    ("bold", "e[1m"), ("unbold", "e[22m"), ("bright", "e[1m"), ("unbright", "e[22m"),
    ("blink", "e[5m"), ("unblink", "e[25m"), ("inverse", "e[7m"), ("uninverse", "e[27m"),
    ("underline", "e[4m"), ("ununderline", "e[24m") ]

/-- The number of steps of the grey ramp. -/
def greySteps : Nat := 24

/-- A number below a hundred in two digits. -/
def twoDigits (n : Nat) : String :=
  String.ofList (Escape.digits (n / 10) ++ Escape.digits (n % 10))

/-- The four names of a step of the grey ramp. -/
def greyStep (step : Nat) : List (String × String) :=
  ["gray", "grey"].flatMap fun spelling =>
    [ (spelling ++ twoDigits step, String.ofList (Escape.rendition [38, 5, 232 + step])),
      ("bg" ++ spelling ++ twoDigits step,
        String.ofList (Escape.rendition [48, 5, 232 + step])) ]

/-- All names of the catalog with their escape sequences. -/
def entries : List (String × String) :=
  fixed.map (fun (name, template) => (name, Escape.ofTemplate template))
    ++ (List.range greySteps).flatMap greyStep

/-- The escape sequence of a name, if the catalog has it. -/
def find? (name : String) : Option String :=
  entries.lookup name

end StyleTags.Catalog

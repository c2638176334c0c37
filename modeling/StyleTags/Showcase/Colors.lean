import StyleTags.Host
import StyleTags.Text.Padding

/-!
# The showcase of colors

A program that shows the names of the catalog, the grey ramp, the color cube, and some
colors known by name, one of which cannot be shown.
-/

namespace StyleTags.Showcase

/-- Marked-up text on the standard output. -/
def say (text : String) (newline : Bool) : Host.Call :=
  .printer .standard (.write (.markup text newline))

/-- The names of the catalog with a ground of their own behind them. -/
def namedColors : List Host.Call :=
  say "[bold]Named colors[unbold]" true ::
    ["black", "red", "green", "yellow", "blue", "purple", "cyan", "white", "gray"].flatMap
      fun name =>
        [ say ("[" ++ name ++ "]" ++ Text.padLeft 8 name ++ "[normal] [bg" ++ name
            ++ "]        [normal]") false,
          say "" true ]

/-- The grey ramp. -/
def greyRamp : List Host.Call :=
  [say "" true, say "[bold]Grayscale[unbold]" true]
    ++ (List.range Catalog.greySteps).map
      (fun step => say ("[bggray" ++ Catalog.twoDigits step ++ "]  ") false)
    ++ [say "[normal]" true]

/-- One row of the color cube, the blue of which grows along it. -/
def cubeRow (red green : Nat) : List Host.Call :=
  (List.range 6).map
      (fun blue => say
        ("[bg:" ++ toString red ++ ":" ++ toString green ++ ":" ++ toString blue ++ "] ") false)
    ++ [say "[normal] " false]

/-- The color cube, slice by slice. -/
def cube : List Host.Call :=
  [say "" true, say "[bold]8-bit cube[unbold]" true]
    ++ (List.range 6).flatMap
      fun red => (List.range 6).flatMap (cubeRow red) ++ [say "" true]

/-- A byte in two hexadecimal digits. -/
def hexByte (n : Nat) : String :=
  String.ofList (Nat.toDigits 16 (n / 16) ++ Nat.toDigits 16 (n % 16))

/-- Colors by name and by their bytes. -/
def trueColor : List Host.Call :=
  [say "" true, say "[bold]True color[unbold]" true]
    ++ ["Tomato", "Gold", "SeaGreen", "SteelBlue", "Orchid", "Transparent"].map
      (fun name => say ("[fg:" ++ name ++ "]" ++ name ++ "[normal]") true)
    ++ (List.range 16).map
      (fun step => say
        ("[bg:" ++ hexByte (17 * step) ++ ":00:" ++ hexByte (255 - 17 * step) ++ "] ") false)
    ++ [say "[normal]" true]

/-- The program, which logs to a file if it is given one. -/
def colors (log : Option LogFile) : List Host.Call :=
  log.toList.map (fun file => .installLogger file .trace)
    ++ namedColors ++ greyRamp ++ cube ++ trueColor

end StyleTags.Showcase

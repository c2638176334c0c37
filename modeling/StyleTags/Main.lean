import StyleTags.Showcase.Colors
import StyleTags.Showcase.Modes

/-!
# The program

Runs one of the two showcases, `colors` or `modes`, in the environment of the process.
-/

namespace StyleTags

/-- The variables that the program looks at, as they are set now. -/
def readEnvironment : IO Environment := do
  let names := ["NO_COLOR", "ANSI_MARKUP_MODE", "ANSI_MARKUP_PREFIX", "ANSI_MARKUP_SUFFIX"]
  let mut values : List (String × String) := []
  for name in names do
    if let some value ← IO.getEnv name then
      values := (name, value) :: values
  return fun name => values.lookup name

/-- Writes what a host has gathered to the streams and log files it stands for. -/
def release (h : Host) : IO Unit := do
  for entry in h.journal.entries do
    IO.FS.withFile entry.path .append fun file => file.putStr entry.line
  (← IO.getStderr).write ⟨h.err.held.toArray⟩
  let out ← IO.getStdout
  out.write ⟨h.out.held.toArray⟩
  out.flush

end StyleTags

open StyleTags

def main (args : List String) : IO UInt32 := do
  let host : Host := { environment := ← readEnvironment }
  match args with
  | ["colors"] =>
    let log := (← IO.getEnv "ANSI_MARKUP_LOG").map fun path => { path }
    release (host.performAll (Showcase.colors log))
    return 0
  | ["modes"] =>
    release (Showcase.modes host)
    return 0
  | _ =>
    IO.eprintln "usage: colors | modes"
    return 2

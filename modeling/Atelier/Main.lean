/-
The program, on the system it is started on.  It has no network.
-/
import Atelier.CommandLine.Run

open Atelier

instance : Host IO where
  setting? name := IO.getEnv name
  readBytes path := do
    try
      return .ok (← IO.FS.readBinFile path)
    catch e => return .error e.toString
  writeText path text := do
    try
      return .ok (← IO.FS.writeFile path text)
    catch e => return .error e.toString
  printLine := IO.println
  fetch _ := return .error (.transport "no network")

/-- The readers of this program give no reasons. -/
def plainWording : Wording :=
  ⟨fun _ _ => "not valid"⟩

/-- Runs the program and reports what went wrong. -/
def main (args : List String) : IO UInt32 := do
  match ← (CommandLine.run args : ExceptT CommandError IO Unit).run with
  | .ok () => return 0
  | .error e =>
    IO.eprintln (e.message plainWording)
    return e.exitCode

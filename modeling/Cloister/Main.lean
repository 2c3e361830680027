import Cloister.Console.Screen
import Cloister.Session

/-! # The command line

A dry run of a session with one call. The call's arguments are those of the program, and its
environment is that of the program as far as it shapes a sandbox or the console. The host is described
on standard input, which lists the paths that exist, one on a line. What the session writes goes to
standard error, and the command line of the launch, if there is one, to standard output.

* `main`: the dry run.
-/

namespace Cloister.DryRun
set_option autoImplicit false

/-- The environment of the program, as far as it shapes a sandbox or the console. -/
def readEnvironment : IO Environment :=
  (Settings.variableNames ++ Console.variableNames).foldlM (fun e name => do
    match ← IO.getEnv name with
    | some value => return e.set name value
    | none => return e) .empty

/-- The lines of a stream, without their ends. -/
partial def readLines (input : IO.FS.Stream) : IO (List String) := do
  let line ← input.getLine
  if line.isEmpty then return []
  else return String.ofList (line.toList.filter (· ≠ '\n')) :: (← readLines input)

def exitFailed : UInt32 := 2

/-- The complaint of a call that ends without an exit code. -/
def complaint : Session.Failure Markup.Failure Empty → String
  | .logging e => e.message
  | .console e => e.message

end Cloister.DryRun

open Cloister in
/-- One call of a session, without the launch itself. -/
def main (argv : List String) : IO UInt32 := do
  let environment ← DryRun.readEnvironment
  let paths ← DryRun.readLines (← IO.getStdin)
  let call : Session.Call Markup.Failure Empty :=
    { argv, environment, host := paths.contains, moment := .still
      screen := Console.screen Console.columns, launched := fun _ => .ok (), drop := false }
  let (answer, _) := ({} : Session).call call
  IO.eprint answer.written
  match answer.launch with
  | some launch => IO.println (Text.shellLine (some launch.binary :: launch.words))
  | none => pure ()
  match answer.exit with
  | .ok code => return code.toUInt32
  | .error e =>
    IO.eprintln (DryRun.complaint e)
    return DryRun.exitFailed

import TwoParty.CommandLine.Job

/-!
# TwoParty.Main

The program: it reads its command line and its environment, checks them, and
reports.  No network transport is linked in, so a session that is ready to run
ends with a message that says so.
-/

open TwoParty

/-- The variables that stand in for switches, as far as they are set. -/
def readEnvironment : IO (List (String × String)) :=
  (CommandLine.program.main.switches.filterMap fun s => s.argument.bind (·.source)).filterMapM
    fun name => do return (← IO.getEnv name).map (name, ·)

def main (words : List String) : IO UInt32 := do
  let environment ← readEnvironment
  match CommandLine.outcome (environment.lookup ·) words with
  | .refused =>
    (← IO.getStderr).putStr "error: unexpected arguments\n\nFor more information, try '--help'.\n"
    return 2
  | .text s =>
    (← IO.getStdout).putStr s
    return 0
  | .failed r =>
    (← IO.getStderr).putStr r.report
    return 1
  | .ready _ =>
    (← IO.getStderr).putStr "Error: no network transport is available\n"
    return 1

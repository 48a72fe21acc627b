import Registrar.LogFilter
import Registrar.Probe

/-!
# Command line

Reads the variables, the working directory and the settings files, and runs the connectivity check.
-/

namespace Registrar.CommandLine

/-- The contents of a file, if it can be read. -/
def readFile? (route : Route) : IO (Option String) := do
  try
    return some (← IO.FS.readFile ("/" ++ route.text))
  catch _ =>
    return none

/-- The tree of the files at the ends of these routes; every other path is a directory. -/
def readFiles (routes : List Route) : IO FileTree := do
  let mut found : List (Path × String) := []
  for route in routes do
    if let some contents ← readFile? route then
      found := (route, contents) :: found
  let files := found
  return fun path => some (((files.lookup path).map .file).getD .directory)

/-- The variables that the check reads. -/
def variableNames : List String :=
  ["API_USER", "API_KEY", "USERNAME", "CLIENT_IP", "SANDBOX", "BASE_URL", "RATE_LIMIT_RPS",
    "RATE_LIMIT_BURST"].map ("NAMECHEAP_" ++ ·)

def readVariables : IO Environment := do
  let mut found : List (String × String) := []
  for key in variableNames do
    if let some value ← IO.getEnv key then
      found := (key, value) :: found
  let values := found
  return fun key => values.lookup key

end Registrar.CommandLine

open Registrar in
def main : IO UInt32 := do
  match LogFilter.install false (← IO.getEnv "RUST_LOG") LogFilter.standard with
  | .error fault =>
    IO.eprintln ("Error: " ++ fault.message)
    return 1
  | .ok _ =>
    let start := (Route.ofText (← IO.currentDir).toString).steps
    let env ← CommandLine.readVariables
    let tree ← CommandLine.readFiles (Settings.candidates start)
    let report := Probe.run env tree start
    report.output.forM IO.println
    report.error.forM IO.eprintln
    return report.exitCode.toUInt32

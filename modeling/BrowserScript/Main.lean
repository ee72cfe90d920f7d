import BrowserScript.CommandLine.Plan

/-!
# The program

Reads the files that the arguments name, and does what the plan says. There is no browser within
reach of this program, so a run ends with the error that says so.
-/

namespace BrowserScript.CommandLine

/-- The outcome of a run without a browser. -/
def Assignment.unreachable (assignment : Assignment) : Outcome :=
  match assignment.endpoint with
  | some endpoint => .failure (PageError.connectionFailed endpoint).message
  | none => launchFailure

def Plan.outcome : Plan → Outcome
  | finished outcome => outcome
  | run assignment => assignment.unreachable

/-- The paths an invocation may read. -/
def pathsOf (arguments : List String) : List String :=
  match Arguments.parse arguments with
  | .ok arguments => arguments.script :: arguments.settings.toList
  | .error _ => []

def readEntry (path : String) : IO (String × Option FileEntry) := do
  try
    return (path, some (.file (← IO.FS.readFile path)))
  catch _ =>
    return (path, none)

def Outcome.print (outcome : Outcome) : IO UInt32 := do
  outcome.output.forM fun line => IO.println line
  outcome.complaint.toList.forM fun line => IO.eprintln line
  return outcome.exitCode.toUInt32

end BrowserScript.CommandLine

open BrowserScript.CommandLine in
def main (arguments : List String) : IO UInt32 := do
  let program := (← IO.appPath).fileName.getD ""
  let entries ← (pathsOf arguments).mapM readEntry
  (plan program (fun path => (entries.lookup path).bind id) arguments).outcome.print

import BrowserScript.CommandLine.Arguments
import BrowserScript.Relay.Error
import BrowserScript.Relay.Command
import BrowserScript.Script.Basic

/-!
# What the command line prints

Main definitions: `helpText`, `checkReport`, `runReport`.
-/

namespace BrowserScript.CommandLine

/-- What an invocation leaves behind. -/
structure Outcome where
  exitCode : Nat
  /-- Lines of standard output. -/
  output : List String
  /-- What goes to standard error. -/
  complaint : Option String
  deriving DecidableEq, Repr

namespace Outcome

def success (output : List String) : Outcome := ⟨0, output, none⟩

/-- Ends with an error and nothing printed before it. -/
def failure (reason : String) : Outcome := ⟨1, [], some s!"Error: {reason}"⟩

def misuse (usage : String) : Outcome := ⟨2, [], some usage⟩

end Outcome

def programVersion : String := "0.1.0"

/-- How the program is called, under the name it has. -/
def usageLine (program : String) : String := s!"Usage: {program} [OPTIONS] <SCRIPT>"

/-- A text filled up with blanks. -/
def padded (width : Nat) (text : String) : String :=
  text ++ String.ofList (List.replicate (width - text.length) ' ')

/-- How a switch is written in the help text. -/
def switchUsage (switch : Switch) : String :=
  let short := match switch.letter? with
    | some letter => s!"-{letter}, "
    | none => "    "
  let value := match switch.valueName? with
    | some name => s!" <{name}>"
    | none => ""
  let dots := if switch = .verbose then "..." else ""
  s!"  {short}--{switch.longName}{value}{dots}"

/-- The purposes of all switches stand in one column. -/
def switchLine (switch : Switch) : String := padded 29 (switchUsage switch) ++ switch.purpose

def helpText (program : String) : List String :=
  ["Run recorded browser automation scripts", "", usageLine program, "", "Arguments:",
    "  <SCRIPT>  Script file to run (JSON or YAML)", "", "Options:"] ++ Switch.all.map switchLine

def versionText (program : String) : List String := [s!"{program} {programVersion}"]

def refusalOutcome (program : String) : Refusal → Outcome
  | .help => .success (helpText program)
  | .version => .success (versionText program)
  | .misuse => .misuse (usageLine program)

/-- What is said of a valid script. -/
def checkReport (script : Script) : List String :=
  [s!"Script valid: {script.title}", s!"  Id: {script.id}",
    s!"  Steps: {script.steps.length} ({script.stepCount} total)"] ++
  if script.parameters.isEmpty then []
  else "  Parameters:" :: script.parameters.entries.map fun (name, value) => s!"    - {name} = {value}"

def runningLine (script : Script) : String := s!"Running: {script.title}"

def progressLine (event : ProgressEvent) : String := s!"  [{event.path}] {event.kind.name}"

/-- The report of a run that has taken place. -/
def resultLines (result : RunResult) : List String :=
  "" :: (if result.success then ["✓ Success"]
    else s!"✗ Failed ({result.code.name})" ::
      ((result.error.map fun error => s!"  Error: {error}").toList ++
        (result.stepPath.map fun path => s!"  Step: {path}").toList)) ++
  [s!"  Steps: {result.stepsExecuted}", s!"  Duration: {result.durationMs}ms"]

/-- What is printed of an answer to the command, and whether it stands for success. -/
def answerReport : Except RelayError Reply → List String × Bool
  | .ok (.execution result) => (resultLines result, result.success)
  | .ok (.failed code error) => ([s!"✗ Failed ({code.name}): {error}"], false)
  | .ok reply => ([s!"✗ Unexpected reply: {reply.name}"], false)
  | .error error => ([s!"✗ Failed ({error.code.name}): {error.message}"], false)

/-- The outcome of a run whose answer has come. -/
def runReport (script : Script) (answer : Except RelayError Reply) : Outcome :=
  let (lines, succeeded) := answerReport answer
  ⟨if succeeded then 0 else 1, runningLine script :: lines, none⟩

end BrowserScript.CommandLine

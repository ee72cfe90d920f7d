import BrowserScript.CommandLine.Report
import BrowserScript.Relay.Orchestrator
import BrowserScript.Store.Directory

/-!
# What an invocation is about

Before a browser is needed, the arguments are read, then the parameters, the script and the
settings; the first problem ends it. Main definition: `plan`.
-/

namespace BrowserScript.CommandLine

/-- A run that is ready but for the browser. -/
structure Assignment where
  script : Script
  params : Variables
  settings : Settings
  /-- Where the browser is; otherwise one is launched. -/
  endpoint : Option String
  target : Option String
  headless : Bool
  detach : Bool
  quiet : Bool
  /-- The directory of the script, in which scripts are looked up by their ids. -/
  directory : String

inductive Plan where
  | finished (outcome : Outcome)
  | run (assignment : Assignment)

def loadSettings (files : String → Option FileEntry) :
    Option String → Except String Settings
  | none => .ok {}
  | some path => (Settings.load files path).mapError fun _ => s!"loading settings {path}"

def directoryOf (path : String) : String :=
  let directory := FilePath.parent path
  if directory.isEmpty then "." else directory

/-- The plan for arguments that can be read. -/
def planFor (files : String → Option FileEntry) (arguments : Arguments) : Except String Plan := do
  let params ← (Variables.ofArguments arguments.params).mapError fun argument =>
    (LoadError.config (.invalidArgument argument)).message
  let script ← (Script.load files arguments.script).mapError fun _ => s!"loading {arguments.script}"
  if arguments.check then return .finished (.success (checkReport script))
  else
    let settings ← loadSettings files arguments.settings
    return .run
      { script, params, settings
        endpoint := arguments.endpoint
        target := arguments.target
        headless := arguments.headless
        detach := arguments.detach
        quiet := arguments.quiet
        directory := directoryOf arguments.script }

/-- What to do about an invocation of the program of the given name, with the files there are. -/
def plan (program : String) (files : String → Option FileEntry) (arguments : List String) :
    Plan :=
  match Arguments.parse arguments with
  | .error refusal => .finished (refusalOutcome program refusal)
  | .ok arguments =>
    match planFor files arguments with
    | .ok plan => plan
    | .error reason => .finished (.failure reason)

namespace Assignment

/-- The command that is sent to the worker. -/
def command (assignment : Assignment) (target : String) : Command :=
  .runScript assignment.script.id assignment.params (some target) assignment.detach

/-- Where the worker looks scripts up. -/
def store (assignment : Assignment) (tree : FileTree) : DirectoryStore :=
  ⟨assignment.directory, tree.listing assignment.directory⟩

def relayConfig (assignment : Assignment) : Relay.RelayConfig :=
  .ofSettings assignment.settings.relay .empty

end Assignment

/-- The outcome when no browser can be launched. -/
def launchFailure : Outcome := .failure (PageError.browser "Chrome not found").message

def noTarget (endpoint : String) : Outcome := .failure s!"no page targets at {endpoint}"

end BrowserScript.CommandLine

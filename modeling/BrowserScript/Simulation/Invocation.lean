import BrowserScript.CommandLine.Plan
import BrowserScript.Simulation.Dial
import BrowserScript.Simulation.Scenario

/-!
# Invocations in a simulation

An invocation of the command line, with the scripted server as the only browser. Main definition:
`invoke`.
-/

namespace BrowserScript.Simulation

open CommandLine

/-- More time than an invocation takes. -/
def patience : Nat := 86400000

/-- What a task comes to that is waited for, if it ends. -/
def World.resultOf (w : World) (errand : Errand) : World × Option TaskResult :=
  let (w, id) := w.sendOut 0 none false {} errand
  let w := w.waitFor (World.isOver id) patience
  (w, (w.result? id).map Prod.snd)

/-- The target to run against: the given one, or the first page there is. -/
def World.chooseTarget (w : World) (assignment : Assignment) (endpoint : String) :
    World × Except Outcome String :=
  match assignment.target with
  | some target => (w, .ok target)
  | none =>
    match w.resultOf (.client .pageTargets) with
    | (w, some (.called (.ok (.arr (.arr (.str target :: _) :: _))))) => (w, .ok target)
    | (w, some (.called (.error error))) => (w, .error (.failure error.message))
    | (w, _) => (w, .error (noTarget endpoint))

/-- Runs the script through the relay. -/
def World.carryOut (w : World) (assignment : Assignment) (tree : FileTree) (target : String) :
    World × Outcome :=
  let (w, _) := w.addManager assignment.settings
  let store := assignment.store tree
  let w := { w with worker := ⟨assignment.settings, some target, false⟩, load := store.load }
  let (w, port) := (w.startExchange assignment.relayConfig).openPort
  match w.resultOf (.send port (assignment.command target)) with
  | (w, some (.sent answer)) => (w, runReport assignment.script answer)
  | (w, _) => (w, runReport assignment.script (.error .timeout))

/-- An invocation of the program of the given name, and what the server has been sent. -/
def invoke (program : String) (tree : FileTree) (server : Option (Server × VersionReply))
    (arguments : List String) :
    Outcome × List Json :=
  match plan program tree.find? arguments with
  | .finished outcome => (outcome, [])
  | .run assignment =>
    match assignment.endpoint, server with
    | none, _ => (launchFailure, [])
    | some endpoint, none => (.failure (PageError.connectionFailed endpoint).message, [])
    | some endpoint, some (server, version) =>
      let (w, connected) := connect server version endpoint patience
      let (w, outcome) : World × Outcome := match connected with
        | .blocked => (w, .failure (PageError.connectionFailed endpoint).message)
        | .failed error => (w, .failure error.message)
        | .to _ =>
          match w.chooseTarget assignment endpoint with
          | (w, .error outcome) => (w, outcome)
          | (w, .ok target) => w.carryOut assignment tree target
      (outcome, w.requests)

end BrowserScript.Simulation

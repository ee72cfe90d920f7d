import BrowserScript.Simulation.Schedule

/-!
# Errands

What a task of a simulation can be sent out for. Main definition: `Errand.program`.
-/

namespace BrowserScript.Simulation

/-- Where a page call goes. -/
inductive Place where
  | session (id : String)
  /-- The session that the target has at the beginning, if it has one. -/
  | target (id : String)
  deriving DecidableEq, Repr

/-- A run of a script that is given. -/
structure ScriptRun where
  script : Script
  target : String
  overrides : Variables
  detach : Bool

inductive Errand where
  | run (run : ScriptRun)
  | handle (command : Command)
  | send (port : Relay.PortId) (command : Command)
  | attach (target : String)
  | detach (target : String)
  | recover (stale : SessionHandle)
  /-- Waits for its turn on the target and puts a name in order; the turn is over after so long. -/
  | queue (target name : String) (hold : Nat)
  /-- Waits for its turn on the target and keeps it. -/
  | lease (target : String)
  | find (place : Place) (selectors : Selectors) (timeout : Nat) (clickable visible : Bool)
  | probe (place : Place) (selectors : Selectors)
  | page (place : Place) (call : PageCall)
  /-- Input to a session, up to the first failure. -/
  | inputs (session : String) (events : List InputEvent)
  | client (call : ClientCall)
  /-- A session made without a manager. -/
  | openSession (target : String)
  | nextNote (port : Relay.PortId)
  | countPending

namespace Errand

def ofRun {α : Type} (program : RunProgram α) : TaskProgram α :=
  program.interpret fun request => Program.request (Request.worker (.run request))

def ofClient (call : ClientCall) : TaskProgram (Except PageError Json) :=
  Program.request (Request.client call)

/-- The session of a place; the empty text if there is none. -/
def sessionOf (manager : Session.Manager) : Place → String
  | .session id => id
  | .target id =>
    match (manager.stateOf id).handle? with
    | some live => live.sessionId
    | none => ""

def sendInputs (session : String) : List InputEvent → TaskProgram (Except PageError Json)
  | [] => return .ok .null
  | event :: rest => do
    match ← ofClient (.page session (.input event)) with
    | .ok _ => sendInputs session rest
    | .error error => return .error error

/-- What a task does, as things stand with its session manager. -/
def program (settings : Settings) (config : Worker.Config) (manager : Session.Manager) :
    Errand → TaskProgram TaskResult
  | run order => do
    return .run (← ofRun
      (Run.script settings order.script order.overrides ⟨order.target, order.detach⟩))
  | handle command => do
    return .reply (← (Worker.handle config command).interpret fun request =>
      Program.request (Request.worker request))
  | send port command => do return .sent (← Program.request (Request.send port command))
  | attach target => do return .attached (← ofRun (Run.attach target))
  | detach target => do return .detached (← ofRun (Run.detach target))
  | recover stale => do return .recovered (← ofRun (Run.recover stale))
  | queue target name hold => do
    ofRun (Run.acquire target)
    Program.request (Request.putInOrder name)
    ofRun (Run.sleep hold)
    ofRun (Run.release target)
    return .leased target
  | lease target => do
    ofRun (Run.acquire target)
    return .leased target
  | find place selectors timeout clickable visible => do
    let lookup : Lookup :=
      ⟨if clickable then some settings.clickable else none, visible, settings.pollInterval⟩
    return .found (← ofRun (lookup.find (sessionOf manager place) selectors timeout))
  | probe place selectors => do
    return .probed (← ofRun (Lookup.probe settings.pollInterval (sessionOf manager place) selectors))
  | page place call => do return .called (← ofClient (.page (sessionOf manager place) call))
  | inputs session events => do return .called (← sendInputs session events)
  | client call => do return .called (← ofClient call)
  | openSession target => do
    return .opened ((← ofClient (.attach target)).map fun session => session.string?.getD "")
  | nextNote port => do return .note (← Program.request (Request.nextNote port))
  | countPending => do return .count (← Program.request Request.countPending)

end Errand

namespace World

/-- Sends a task out. Its progress is kept if asked for. -/
def sendOut (w : World) (manager : Nat) (flag : Option Relay.FlagId) (keepsProgress : Bool)
    (settings : Settings) (errand : Errand) : World × TaskId :=
  let program := errand.program settings w.worker (w.managed manager).manager
  let sink : Sink := if keepsProgress then .kept [] else .nowhere
  w.spawn (.runner ⟨manager, flag, sink, none, .running program⟩)

def isOver (id : TaskId) (w : World) : Bool := (w.result? id).isSome

end World

end BrowserScript.Simulation

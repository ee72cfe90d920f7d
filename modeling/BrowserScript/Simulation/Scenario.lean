import BrowserScript.Simulation.Errand
import BrowserScript.Simulation.PageAction

/-!
# Scenarios

A scenario is played operation by operation. Tasks, leases, session handles, cancel flags and ports
are known by names. Main definition: `Scenario.perform`, which plays one operation, and
`Scenario.play`, which also lets all tasks run until they wait and says what there is to see then.
-/

namespace BrowserScript.Simulation

structure Scenario where
  world : World
  settings : Settings
  relay : Relay.RelayConfig
  tasks : List (String × TaskId)
  leases : List (String × TaskId)
  handles : List (String × SessionHandle)
  flags : List (String × Relay.FlagId)
  ports : List (String × Relay.PortId)

/-- An errand in which ports and handles go by their names. -/
inductive NamedErrand where
  | plain (errand : Errand)
  /-- A run; it can be cancelled from the start, or later through a named flag. -/
  | run (run : ScriptRun) (cancelled : Bool) (flag : Option String)
  | handle (command : Command) (keepsProgress : Bool)
  | send (port : String) (command : Command)
  | recover (handle : String)
  | nextNote (port : String)

inductive Operation where
  /-- Does something to the page; nothing else runs in between. -/
  | act (actions : List PageAction)
  /-- Sends a task out and waits for it; then the handle of a target may be saved under a name. -/
  | perform (errand : NamedErrand) (limit : Nat) (saveAs : Option (String × String))
  | spawn (name : String) (errand : NamedErrand)
  | await (name : String) (limit : Nat)
  | isOver (name : String)
  | concurrent (errands : List NamedErrand) (limit : Nat)
  | sleep (ms : Nat)
  | acquire (name target : String) (limit : Nat)
  | release (name : String)
  | readOrder
  | save (name target : String)
  | readState (target : String)
  | cancelFlag (flag : String)
  /-- A second session manager on the same client. -/
  | otherManager (target : String) (limit : Nat)
  /-- A run with settings and a session manager of its own. -/
  | runAlone (settings : Settings) (run : ScriptRun) (limit : Nat)
  | openPort (name : String)
  | closePort (name : String)
  | readNotes (port : String)
  | shutdown
  /-- The next request on a link; the newest link if none is named. -/
  | takeRequest (link : Option Relay.LinkId)
  | answer (link : Option Relay.LinkId) (message : Relay.LinkMessage)
  | dropLink (link : Option Relay.LinkId)
  | stopRequests (link : Option Relay.LinkId)
  | refuse (count : Nat)
  | readAttempts

/-- What comes of an operation. -/
inductive Answer where
  | nothing
  /-- It took too long. -/
  | blocked
  /-- A name of the given kind is not known. -/
  | unknown (kind : String)
  | page (answers : List PageAnswer)
  | result (result : TaskResult) (progress : List ProgressEvent)
  | results (results : List (TaskResult × List ProgressEvent))
  | truth (isTrue : Bool)
  | truths (truths : List Bool)
  | names (names : List String)
  | times (times : List Nat)
  | saved (isAttached : Bool)
  | state (state : SessionState)
  | attached (result : Except PageError SessionHandle) (state : SessionState)
  | ran (result : RunResult) (state : SessionState)
  | port (id : Relay.PortId)
  | notes (notes : List Relay.Notification)
  | request (request : Relay.LinkRequest)

/-- What there is to see after an operation. -/
structure Sight where
  answer : Answer
  time : Nat
  /-- What the browser has been asked since the last operation. -/
  records : List Record
  /-- The events of the client since the last operation. -/
  events : List SessionEvent
  detaches : Nat
  /-- Links made so far. -/
  links : Nat

namespace Scenario

/-- A scenario in a world, with a session manager. -/
def start (world : World) (settings : Settings) (relay : Relay.RelayConfig) : Scenario where
  world := (world.addManager settings).1
  settings := settings
  relay := relay
  tasks := []
  leases := []
  handles := []
  flags := []
  ports := []

def manager (s : Scenario) : Session.Manager := (s.world.managed 0).manager

/-! ## Tasks -/

/-- A flag for a run, known by a name from now on if one is given. -/
def runFlag (s : Scenario) (cancelled : Bool) (name : Option String) : Scenario × Relay.FlagId :=
  let (registry, flag) := s.world.registry.newFlag
  let registry := if cancelled then registry.set flag else registry
  ({ s with
    world := { s.world with registry }
    flags := (name.map fun name => (name, flag)).toList ++ s.flags }, flag)

/-- Sends a task out, unless a name is not known. -/
def sendOut (s : Scenario) (errand : NamedErrand) : Except String (Scenario × TaskId) :=
  let go (s : Scenario) (flag : Option Relay.FlagId) (keepsProgress : Bool) (errand : Errand) :=
    let (world, id) := s.world.sendOut 0 flag keepsProgress s.settings errand
    .ok ({ s with world }, id)
  match errand with
  | .plain errand => go s none false errand
  | .run run cancelled name =>
    let (s, flag) := s.runFlag cancelled name
    go s (some flag) true (.run run)
  | .handle command keepsProgress => go s none keepsProgress (.handle command)
  | .send port command =>
    match s.ports.lookup port with
    | some port => go s none false (.send port command)
    | none => .error "port"
  | .recover handle =>
    match s.handles.lookup handle with
    | some stale => go s none false (.recover stale)
    | none => .error "handle"
  | .nextNote port =>
    match s.ports.lookup port with
    | some port => go s none false (.nextNote port)
    | none => .error "port"

def progressOf : Runner → List ProgressEvent
  | ⟨_, _, .kept events, _, _⟩ => events.reverse
  | _ => []

/-- The result of a task that is over, and the scenario without the task. -/
def take (s : Scenario) (id : TaskId) : Option (Scenario × TaskResult × List ProgressEvent) :=
  (s.world.result? id).map fun (runner, result) =>
    ({ s with world := s.world.remove id }, result, progressOf runner)

/-- Waits for a task. -/
def waitFor (s : Scenario) (id : TaskId) (limit : Nat) : Scenario :=
  { s with world := s.world.waitFor (World.isOver id) limit }

def drop (s : Scenario) (id : TaskId) : Scenario := { s with world := s.world.drop id }

def performErrand (s : Scenario) (errand : NamedErrand) (limit : Nat) : Scenario × Answer :=
  match s.sendOut errand with
  | .error kind => (s, .unknown kind)
  | .ok (s, id) =>
    let s := s.waitFor id limit
    match s.take id with
    | some (s, result, progress) => (s, .result result progress)
    | none => (s.drop id, .blocked)

/-- Saves the handle of a target, if it is attached. -/
def saveHandle (s : Scenario) (name target : String) : Scenario × Bool :=
  match (s.manager.stateOf target).handle? with
  | some handle => ({ s with handles := (name, handle) :: s.handles }, true)
  | none => (s, false)

def sendOutAll (s : Scenario) : List NamedErrand → Except String (Scenario × List TaskId)
  | [] => .ok (s, [])
  | errand :: rest => do
    let (s, id) ← s.sendOut errand
    let (s, ids) ← sendOutAll s rest
    .ok (s, id :: ids)

def takeAll (s : Scenario) : List TaskId → Scenario × List (TaskResult × List ProgressEvent)
  | [] => (s, [])
  | id :: rest =>
    match s.take id with
    | some (s, result) =>
      let (s, results) := takeAll s rest
      (s, result :: results)
    | none => takeAll s rest

def performAll (s : Scenario) (errands : List NamedErrand) (limit : Nat) : Scenario × Answer :=
  match s.sendOutAll errands with
  | .error kind => (s, .unknown kind)
  | .ok (s, ids) =>
    let areOver (w : World) := ids.all fun id => w.isOver id
    let s := { s with world := s.world.waitFor areOver limit }
    if areOver s.world then
      let (s, results) := s.takeAll ids
      (s, .results results)
    else (ids.foldl drop s, .blocked)

/-- Waits for the turn on a target and keeps it under a name. -/
def acquire (s : Scenario) (name target : String) (limit : Nat) : Scenario × Answer :=
  let (world, id) := s.world.sendOut 0 none false s.settings (.lease target)
  let s := { s with world }.waitFor id limit
  match s.world.result? id with
  | some (_, result) =>
    let earlier := s.leases.lookup name
    let s := { s with leases := (name, id) :: s.leases.filter fun lease => lease.1 != name }
    (earlier.toList.foldl drop s, .result result [])
  | none => (s.drop id, .blocked)

/-! ## Other managers -/

/-- A manager that is dropped takes in no more events. -/
def dropManager (w : World) (i : Nat) : World :=
  let isItsTask : Job → Bool
    | .events m => m == i
    | _ => false
  let w := w.updateManaged i fun entry => { entry with isLive := false }
  (w.tasksWhere isItsTask).foldl World.remove w

/-- Sends a task out with a manager of its own, and says how the target stands at the end. -/
def performApart
    (s : Scenario) (settings : Settings) (errand : Errand) (target : String) (limit : Nat) :
    Scenario × Option (TaskResult × SessionState) :=
  let (world, i) := s.world.addManager settings
  let (world, id) := world.sendOut i none false settings errand
  let s := { s with world }.waitFor id limit
  let state := (s.world.managed i).manager.stateOf target
  match s.take id with
  | some (s, result, _) => ({ s with world := dropManager s.world i }, some (result, state))
  | none => ({ s with world := dropManager (s.world.drop id) i }, none)

/-! ## The relay -/

/-- The orchestrator begins its work, if it has not yet. -/
def startRelay (s : Scenario) : Scenario :=
  match s.world.exchange with
  | some _ => s
  | none => { s with world := s.world.startExchange s.relay }

def openPort (s : Scenario) (name : String) : Scenario × Answer :=
  let s := s.startRelay
  let (world, port) := s.world.openPort
  let earlier := s.ports.lookup name
  let world := earlier.toList.foldl World.closePort world
  ({ s with world, ports := (name, port) :: s.ports.filter fun entry => entry.1 != name }, .port port)

def closePort (s : Scenario) (name : String) : Scenario × Answer :=
  match s.ports.lookup name with
  | some port =>
    ({ s with
      world := s.world.closePort port
      ports := s.ports.filter fun entry => entry.1 != name }, .truth true)
  | none => (s, .truth false)

def readNotes (s : Scenario) (name : String) : Scenario × Answer :=
  match s.ports.lookup name, s.world.exchange with
  | some port, some x =>
    let (x, notes) := x.drainNotes port
    ({ s with world := s.world.setExchange x }, .notes notes)
  | _, _ => (s, .unknown "port")

/-- The end of a link that is held by hand, and the link. -/
def link? (s : Scenario) (link : Option Relay.LinkId) : Option (Relay.Exchange × Relay.LinkId) := do
  let x ← s.world.exchange
  let newest ← if x.links.isEmpty then none else some (x.links.length - 1)
  let id := link.getD newest
  if id ≤ newest then some (x, id) else none

def takeRequest (s : Scenario) (link : Option Relay.LinkId) : Scenario × Answer :=
  match s.link? link with
  | none => (s, .nothing)
  | some (x, id) =>
    match x.takeRequest id with
    | (x, some request) => ({ s with world := s.world.setExchange x }, .request request)
    | (_, none) => (s, .nothing)

def answer (s : Scenario) (link : Option Relay.LinkId) (message : Relay.LinkMessage) :
    Scenario × Answer :=
  match s.link? link with
  | none => (s, .nothing)
  | some (x, id) =>
    if (x.link id).mayAnswer then
      ({ s with world := s.world.setExchange (x.answer id message) }, .truth (!(x.link id).isDropped))
    else (s, .nothing)

def dropLink (s : Scenario) (link : Option Relay.LinkId) : Scenario × Answer :=
  match s.link? link with
  | none => (s, .truth false)
  | some (x, id) =>
    ({ s with world := s.world.setExchange (x.dropLink id) }, .truth (x.link id).mayAnswer)

def stopRequests (s : Scenario) (link : Option Relay.LinkId) : Scenario × Answer :=
  match s.link? link with
  | none => (s, .truth false)
  | some (x, id) =>
    ({ s with world := s.world.setExchange (x.stopRequests id) }, .truth (x.link id).takesRequests)

/-! ## Operations -/

def perform (s : Scenario) : Operation → Scenario × Answer
  | .act actions =>
    let (world, answers) := actions.foldl (fun (w, answers) action =>
      let (w, answer) := World.act w action
      (w, answer :: answers)) (s.world, [])
    ({ s with world }, .page answers.reverse)
  | .perform errand limit saveAs =>
    let (s, answer) := s.performErrand errand limit
    match saveAs with
    | some (name, target) => ((s.saveHandle name target).1, answer)
    | none => (s, answer)
  | .spawn name errand =>
    match s.sendOut errand with
    | .ok (s, id) =>
      ({ s with tasks := (name, id) :: s.tasks.filter fun entry => entry.1 != name }, .nothing)
    | .error kind => (s, .unknown kind)
  | .await name limit =>
    match s.tasks.lookup name with
    | none => (s, .unknown "task")
    | some id =>
      let s := s.waitFor id limit
      match s.take id with
      | some (s, result, progress) =>
        ({ s with tasks := s.tasks.filter fun entry => entry.2 != id }, .result result progress)
      | none => (s, .blocked)
  | .isOver name =>
    match s.tasks.lookup name with
    | some id => (s, .truth (s.world.isOver id))
    | none => (s, .nothing)
  | .concurrent errands limit => s.performAll errands limit
  | .sleep ms => ({ s with world := s.world.sleep ms }, .nothing)
  | .acquire name target limit => s.acquire name target limit
  | .release name =>
    match s.leases.lookup name with
    | some id =>
      ({ s with leases := s.leases.filter fun lease => lease.1 != name }.drop id, .truth true)
    | none => (s, .truth false)
  | .readOrder => (s, .names s.world.order.reverse)
  | .save name target =>
    let (s, isAttached) := s.saveHandle name target
    (s, .saved isAttached)
  | .readState target => (s, .state (s.manager.stateOf target))
  | .cancelFlag name =>
    match s.flags.lookup name with
    | none => (s, .unknown "flag")
    | some flag =>
      let was := s.world.registry.isCancelled flag
      ({ s with world := { s.world with registry := s.world.registry.set flag } },
        .truths [was, true, true, false])
  | .otherManager target limit =>
    match s.performApart s.settings (.attach target) target limit with
    | (s, some (.attached result, state)) => (s, .attached result state)
    | (s, _) => (s, .blocked)
  | .runAlone settings run limit =>
    match s.performApart settings (.run run) run.target limit with
    | (s, some (.run result, state)) => (s, .ran result state)
    | (s, _) => (s, .blocked)
  | .openPort name => s.openPort name
  | .closePort name => s.closePort name
  | .readNotes port => s.readNotes port
  | .shutdown => ({ s with world := s.world.withExchange fun x => x.tell .shutdown }, .nothing)
  | .takeRequest link => s.takeRequest link
  | .answer link message => s.answer link message
  | .dropLink link => s.dropLink link
  | .stopRequests link => s.stopRequests link
  | .refuse count => ({ s with world := { s.world with connector := .manual count } }, .nothing)
  | .readAttempts => (s, .times s.world.attempts.reverse)

def records (s : Scenario) : List Record :=
  match s.world.client with
  | .browser browser _ => browser.log
  | .channel _ => []

def attachCount (s : Scenario) (target : String) : Nat :=
  match s.world.client with
  | .browser browser _ => browser.attachCount target
  | .channel _ => 0

def detaches (s : Scenario) : Nat :=
  match s.world.client with
  | .browser browser _ => browser.detaches
  | .channel _ => 0

/-- Plays an operation. Without `settles`, the tasks do not run after it. -/
def play (s : Scenario) (operation : Operation) (settles : Bool) : Scenario × Sight :=
  let known := s.records.length
  let (s, answer) := { s with world := { s.world with observed := [] } }.perform operation
  let s := if settles then { s with world := s.world.settle } else s
  let records := s.records
  (s, {
    answer
    time := s.world.now
    records := (records.take (records.length - known)).reverse
    events := s.world.observed.reverse
    detaches := s.detaches
    links := match s.world.exchange with
      | some x => x.links.length
      | none => 0 })

end Scenario

end BrowserScript.Simulation

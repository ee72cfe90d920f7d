import BrowserScript.Session.Manager
import BrowserScript.Relay.Exchange
import BrowserScript.Relay.Worker
import BrowserScript.Simulation.Client

/-!
# The simulated world

Everything that takes part in a simulation: the clock, the client, session managers, the relay, and
tasks. A task runs until it has to wait; tasks that may go on stand in a queue. This module holds
the state and what can be done to it at once; `Simulation.Task` says what a task does when it is its
turn.
-/

namespace BrowserScript.Simulation

abbrev TaskId := Nat

/-- What tasks ask of the world. -/
inductive Request where
  | worker (request : Worker.Request)
  | client (call : ClientCall)
  | send (port : Relay.PortId) (command : Command)
  | nextNote (port : Relay.PortId)
  | countPending
  | putInOrder (name : String)
  /-- From here on progress goes to the given link. -/
  | startForwarding (link : Relay.LinkId) (relayId : Relay.RelayId)
  | finishForwarding
  | answer (link : Relay.LinkId) (message : Relay.LinkMessage)
  deriving Repr

def Request.Answer : Request → Type
  | worker request => request.Answer
  | client _ => Except PageError Json
  | send _ _ => Except RelayError Reply
  | nextNote _ => Option Relay.Notification
  | countPending => Nat
  | putInOrder _ => Unit
  | startForwarding _ _ => Unit
  | finishForwarding => Unit
  | answer _ _ => Unit

/-- What a task comes to. -/
inductive TaskResult where
  | nothing
  | run (result : RunResult)
  | reply (reply : Reply)
  | sent (result : Except RelayError Reply)
  | attached (result : Except PageError SessionHandle)
  | detached (result : Except PageError Unit)
  | recovered (handle : Option SessionHandle)
  /-- The target whose scripts had to wait. -/
  | leased (target : String)
  | opened (session : Except PageError String)
  | found (result : Except LookupError Element)
  | probed (result : Except PageError (Option Element))
  | called (result : Except PageError Json)
  | note (note : Option Relay.Notification)
  | count (count : Nat)

instance : Inhabited TaskResult := ⟨.nothing⟩

abbrev TaskProgram (α : Type) : Type := Program Request Request.Answer α

instance : Inhabited (TaskProgram TaskResult) := ⟨.done .nothing⟩

/-- A call whose answer is still to come. -/
inductive ActiveCall where
  /-- An attach that takes until the given time. -/
  | opening (target : String) (due : Nat)
  /-- A command on its way, and what follows its answer. -/
  | command (id : Devtools.CallId) (deadline : Nat) (method : String)
      (next : Except PageError Json → DevtoolsProgram (Except PageError Json))

/-- How far a task has come. -/
inductive Stage where
  | running (program : TaskProgram TaskResult)
  | operation (id : Session.OperationId) (wait : Session.Wait) (active : Option ActiveCall)
      (next : Session.Outcome → TaskProgram TaskResult)
  | calling (active : ActiveCall) (next : Except PageError Json → TaskProgram TaskResult)
  | sleeping (due : Nat) (next : TaskProgram TaskResult)
  | sending (port : Relay.PortId) (request : Relay.RequestId) (deadline : Nat)
      (next : Except RelayError Reply → TaskProgram TaskResult)
  | reading (port : Relay.PortId) (next : Option Relay.Notification → TaskProgram TaskResult)
  | counting (asker : Nat) (next : Nat → TaskProgram TaskResult)
  | forwarding (forwarder : TaskId) (next : TaskProgram TaskResult)
  | over (result : TaskResult)

instance : Inhabited Stage := ⟨.over .nothing⟩

/-- Where a task sends its progress. -/
inductive Sink where
  | nowhere
  /-- Kept with the task, the latest first. -/
  | kept (events : List ProgressEvent)
  | forwarder (task : TaskId)

/-- A task that runs a program. -/
structure Runner where
  manager : Nat
  flag : Option Relay.FlagId
  sink : Sink
  lease : Option Session.OperationId
  stage : Stage

/-- What a task is for. -/
inductive Job where
  | runner (runner : Runner)
  /-- Takes in the events of the client for a manager. -/
  | events (manager : Nat)
  | orchestrator
  | dispatch (port : Relay.PortId)
  | serve (link : Relay.LinkId)
  /-- Passes progress on to a link until all has been passed on. -/
  | forward (link : Relay.LinkId) (relayId : Relay.RelayId) (events : List ProgressEvent)
      (isClosed : Bool)
  /-- Takes in what arrives from the server. -/
  | receive

structure Task where
  id : TaskId
  job : Job

/-- A session manager, and events it has not taken in yet. -/
structure Managed where
  manager : Session.Manager
  events : List SessionEvent
  isLive : Bool

/-- What the connector of the orchestrator does. -/
inductive Connector where
  /-- Links lead to the worker. -/
  | worker
  /-- Links are handed out; so many attempts are refused first. -/
  | manual (refusals : Nat)

structure World where
  now : Nat
  client : Client
  managers : List Managed
  registry : Relay.Registry
  worker : Worker.Config
  load : String → Except LoadError Script
  classify : String → Option IntentMatch
  exchange : Option Relay.Exchange
  connector : Connector
  /-- The times of all connection attempts, the latest first. -/
  attempts : List Nat
  tasks : List Task
  nextTask : TaskId
  /-- Tasks whose turn it is, in order. -/
  ready : List TaskId
  /-- Names put in order, the latest first. -/
  order : List String
  /-- Events since they were last looked at, the latest first. -/
  observed : List SessionEvent
  /-- Ports that are dropped as soon as nobody sends through them. -/
  closing : List Relay.PortId
  nextAsker : Nat

/-- A receiver of events that is further behind loses the oldest. -/
def eventCapacity : Nat := 64

namespace World

/-- A world at its beginning: no managers, no relay, no scripts. -/
def initial (client : Client) : World where
  now := 0
  client := client
  managers := []
  registry := .empty
  worker := ⟨{}, none, false⟩
  load := fun scriptId => .error (.config (.scriptNotFound scriptId))
  classify := fun _ => none
  exchange := none
  connector := .worker
  attempts := []
  tasks := []
  nextTask := 0
  ready := []
  order := []
  observed := []
  closing := []
  nextAsker := 0

/-! ## Tasks -/

def wake (w : World) (id : TaskId) : World :=
  if w.ready.contains id then w else { w with ready := w.ready ++ [id] }

def wakeAll (w : World) (ids : List TaskId) : World := ids.foldl wake w

/-- The tasks for which a test holds, in order. -/
def tasksWhere (w : World) (test : Job → Bool) : List TaskId :=
  (w.tasks.filter fun task => test task.job).map Task.id

def spawn (w : World) (job : Job) : World × TaskId :=
  (({ w with tasks := w.tasks ++ [Task.mk w.nextTask job], nextTask := w.nextTask + 1 }).wake w.nextTask,
    w.nextTask)

def job? (w : World) (id : TaskId) : Option Job :=
  (w.tasks.find? fun task => task.id == id).map Task.job

def setJob (w : World) (id : TaskId) (job : Job) : World :=
  { w with tasks := w.tasks.map fun task => if task.id = id then Task.mk id job else task }

def remove (w : World) (id : TaskId) : World :=
  { w with tasks := w.tasks.filter fun task => task.id != id }

/-! ## Managers -/

def managed (w : World) (i : Nat) : Managed :=
  w.managers.getD i ⟨Session.Manager.ofSettings {}, [], false⟩

def updateManaged (w : World) (i : Nat) (f : Managed → Managed) : World :=
  { w with managers := w.managers.modify i f }

def isOperation (manager : Nat) (id : Session.OperationId) : Job → Bool
  | .runner ⟨m, _, _, _, .operation o _ _ _⟩ => m == manager && o == id
  | _ => false

/-- Wakes the task of an operation. A replacement of a lost session gets a task of its own. -/
def wakeOperation (manager : Nat) (w : World) (id : Session.OperationId) : World :=
  match w.tasksWhere (isOperation manager id) with
  | [] =>
    match (w.managed manager).manager.operation? id with
    | some (.reattach _ .fresh) =>
      let stage : Stage := .operation id .turn none fun _ => .done .nothing
      (w.spawn (.runner ⟨manager, none, .nowhere, none, stage⟩)).1
    | _ => w
  | tasks => w.wakeAll tasks

/-- Stores a changed manager and wakes the tasks of the operations that may go on. -/
def setManager (w : World) (i : Nat) (manager : Session.Manager) : World :=
  let w := w.updateManaged i fun entry => { entry with manager := { manager with woken := [] } }
  manager.woken.foldl (wakeOperation i) w

/-- A new session manager with a task for its events. -/
def addManager (w : World) (settings : Settings) : World × Nat :=
  let i := w.managers.length
  let added : Managed := ⟨.ofSettings settings, [], true⟩
  (({ w with managers := w.managers ++ [added] }.spawn (.events i)).1, i)

/-! ## Events -/

/-- Adds an event to those not taken in yet. -/
def queueEvent (events : List SessionEvent) (event : SessionEvent) : List SessionEvent :=
  let all := events ++ [event]
  all.drop (all.length - eventCapacity)

def isEvents : Job → Bool
  | .events _ => true
  | _ => false

/-- A live manager keeps an event until it takes it in. -/
def hear (event : SessionEvent) (entry : Managed) : Managed :=
  if entry.isLive then { entry with events := queueEvent entry.events event } else entry

def emit (w : World) (event : SessionEvent) : World :=
  let w := { w with
    observed := (event :: w.observed).take eventCapacity
    managers := w.managers.map (hear event) }
  w.wakeAll (w.tasksWhere isEvents)

def emitAll (w : World) (events : List SessionEvent) : World := events.foldl emit w

/-! ## The relay -/

def concerns (party : Relay.Party) : Job → Bool
  | .orchestrator => party == .orchestrator
  | .dispatch port => party == .port port
  | .serve link => party == .worker link
  | .runner ⟨_, _, _, _, .sending port request _ _⟩ => party == .sender port request
  | .runner ⟨_, _, _, _, .reading port _⟩ => party == .reader port
  | .runner ⟨_, _, _, _, .counting asker _⟩ => party == .asker asker
  | _ => false

/-- Stores a changed exchange and wakes the tasks of those who have something to do. -/
def setExchange (w : World) (x : Relay.Exchange) : World :=
  let w := { w with exchange := some { x with woken := [] } }
  x.woken.foldl (fun w party => w.wakeAll (w.tasksWhere (concerns party))) w

def withExchange (w : World) (f : Relay.Exchange → Relay.Exchange) : World :=
  match w.exchange with
  | some x => w.setExchange (f x)
  | none => w

/-- The orchestrator begins its work. -/
def startExchange (w : World) (config : Relay.RelayConfig) : World :=
  let w := { w with exchange := some (.start config w.now) }
  (w.spawn .orchestrator).1

/-- Opens a port, with a task that sorts what comes for it. -/
def openPort (w : World) : World × Relay.PortId :=
  match w.exchange with
  | none => (w, 0)
  | some x =>
    let (x, port) := x.openPort
    let w := w.setExchange x
    ((w.spawn (.dispatch port)).1, port)

def isSendingOn (port : Relay.PortId) : Job → Bool
  | .runner ⟨_, _, _, _, .sending p _ _ _⟩ => p == port
  | _ => false

/-- Drops the ports that are to be dropped and through which nobody sends any more. -/
def dropPorts (w : World) : World :=
  let (free, used) := w.closing.partition fun port => (w.tasksWhere (isSendingOn port)).isEmpty
  free.foldl (fun w port => w.withExchange fun x => x.closePort port) { w with closing := used }

def closePort (w : World) (port : Relay.PortId) : World :=
  { w with closing := w.closing ++ [port] }.dropPorts

/-! ## The client -/

def isCalling (id : Devtools.CallId) : Job → Bool
  | .runner ⟨_, _, _, _, .calling (.command call _ _ _) _⟩ => call == id
  | .runner ⟨_, _, _, _, .operation _ _ (some (.command call _ _ _)) _⟩ => call == id
  | _ => false

def isReceive : Job → Bool
  | .receive => true
  | _ => false

/-- Goes on with a call over a connection until it waits for an answer. -/
def proceed (w : World) (channel : Channel) :
    DevtoolsProgram (Except PageError Json) → World × Except (Except PageError Json) ActiveCall
  | .done answer => ({ w with client := .channel channel }, .error answer)
  | .ask (.register session target) next =>
    proceed w { channel with connection := channel.connection.register session target } (next ())
  | .ask (.unregister session) next =>
    proceed w { channel with connection := channel.connection.unregister session } (next ())
  | .ask (.call method params session) next =>
    let (connection, id) := channel.connection.call session
    if connection.isOpen then
      let (server, arrivals) := channel.server.answer ⟨id, method, params, session⟩
      let w := { w with client := .channel { channel with
        connection, server, arrivals := channel.arrivals ++ arrivals } }
      (w.wakeAll (w.tasksWhere isReceive),
        .ok (.command id (w.now + Devtools.commandTimeout) method next))
    else proceed w { channel with connection := connection.withdraw id } (next (.error (.transport "")))

/-- Makes a call. Either it is answered at once, or the answer is still to come. -/
def call (w : World) (call : ClientCall) : World × Except (Except PageError Json) ActiveCall :=
  match w.client with
  | .channel channel => w.proceed channel call.program
  | .browser browser injections =>
    match Injection.answer? injections call with
    | (injections, some answer) => ({ w with client := .browser browser injections }, .error answer)
    | (injections, none) =>
      match call, browser.attachDelay with
      | .attach target, delay + 1 =>
        ({ w with client := .browser browser injections }, .ok (.opening target (w.now + delay + 1)))
      | call, _ =>
        let (browser, events, answer) := call.answer browser
        ({ w with client := .browser browser injections }.emitAll events, .error answer)

/-- Goes on with a call if its answer has come or its time is up; `none` if not. -/
def progress (w : World) :
    ActiveCall → Option (World × Except (Except PageError Json) ActiveCall)
  | .opening target due =>
    if w.now < due then none
    else
      match w.client with
      | .browser browser injections =>
        let (browser, answer) := browser.attach target
        some ({ w with client := .browser browser injections }, .error (answer.map .str))
      | .channel _ => none
  | .command id deadline method next =>
    match w.client with
    | .browser _ _ => none
    | .channel channel =>
      match channel.results.find? fun result => result.1 == id with
      | some result =>
        let results := channel.results.filter fun result => result.1 != id
        some (w.proceed { channel with results } (next result.2))
      | none =>
        if w.now < deadline then none
        else
          some (w.proceed { channel with connection := channel.connection.withdraw id }
            (next (.error (.timeout s!"{method} timed out"))))

def notice (w : World) : Devtools.Notice → World
  | .event event => w.emit event
  | .completed id result =>
    match w.client with
    | .channel channel =>
      let w := { w with client := .channel { channel with results := channel.results ++ [(id, result)] } }
      w.wakeAll (w.tasksWhere (isCalling id))
    | .browser _ _ => w

/-- Takes in what has arrived. After the end of the connection nothing more is taken in. -/
def takeArrivals (w : World) : List Arrival → World
  | [] => w
  | arrival :: rest =>
    match w.client with
    | .browser _ _ => w
    | .channel channel =>
      match arrival with
      | .other => takeArrivals w rest
      | .text text =>
        let (connection, notices) := channel.connection.receive text
        let w := { w with client := .channel { channel with connection } }
        takeArrivals (notices.foldl notice w) rest
      | .closed =>
        let (connection, notices) := channel.connection.disconnect
        let w := { w with client := .channel { channel with connection } }
        notices.foldl notice w

end World

end BrowserScript.Simulation

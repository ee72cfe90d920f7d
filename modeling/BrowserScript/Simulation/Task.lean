import BrowserScript.Simulation.World

/-!
# What tasks do

When it is its turn, a task goes on until it has to wait. Main definition: `World.poll`.
-/

namespace BrowserScript.Simulation

/-- More steps than a task takes without waiting. -/
def stepLimit : Nat := 100000000

namespace World

def setRunner (w : World) (id : TaskId) (runner : Runner) : World := w.setJob id (.runner runner)

/-- Goes on with a program. -/
def goOn (w : World) (id : TaskId) (r : Runner) (program : TaskProgram TaskResult) : World :=
  w.setRunner id { r with stage := .running program }

/-! ## Operations on sessions -/

/-- What the answer of the client means for an operation that waits for it. -/
def inputFor (wait : Session.Wait) (answer : Except PageError Json) : Session.Input :=
  match wait with
  | .attach _ => .attached (answer.map fun session => session.string?.getD "")
  | .probe _ => .probed answer
  | .close _ => .closed (answer.map fun _ => ())
  | _ => .turn

/-- The call an operation waits for. -/
def callFor : Session.Wait → Option ClientCall
  | .attach target => some (.attach target)
  | .probe session => some (.page session (.evaluate Page.readyStateExpression))
  | .close session => some (.detach session)
  | _ => none

/-- Goes on as an operation says; the flag tells whether there is more to do at once. -/
def follow (w : World) (id : TaskId) (r : Runner) (operation : Session.OperationId)
    (wait : Session.Wait) (next : Session.Outcome → TaskProgram TaskResult) : World × Bool :=
  match wait with
  | .over outcome =>
    let r := match outcome with
      | .acquired lease => { r with lease := some lease }
      | _ => r
    (w.goOn id r (next outcome), true)
  | wait =>
    let stay (active : Option ActiveCall) := { r with stage := .operation operation wait active next }
    match callFor wait with
    | none =>
      let more := match wait with
        | .time due | .change due => due ≤ w.now
        | _ => false
      (w.setRunner id (stay none), more)
    | some call =>
      match w.call call with
      | (w, .ok active) => (w.setRunner id (stay (some active)), false)
      | (w, .error answer) =>
        let (manager, wait) :=
          (w.managed r.manager).manager.resume w.now operation (inputFor wait answer)
        let w := w.setManager r.manager manager
        (w.setRunner id { r with stage := .operation operation wait none next }, true)

def resumeOperation (w : World) (id : TaskId) (r : Runner) (operation : Session.OperationId)
    (input : Session.Input) (next : Session.Outcome → TaskProgram TaskResult) : World × Bool :=
  let (manager, wait) := (w.managed r.manager).manager.resume w.now operation input
  (w.setManager r.manager manager).follow id r operation wait next

/-- Begins an operation. -/
def beginOperation (w : World) (id : TaskId) (r : Runner)
    (begun : Session.Manager × Session.OperationId × Session.Wait)
    (next : Session.Outcome → TaskProgram TaskResult) : World × Bool :=
  let (manager, operation, wait) := begun
  (w.setManager r.manager manager).follow id r operation wait next

/-- One step of an operation that waits. -/
def stepOperation (w : World) (id : TaskId) (r : Runner) (operation : Session.OperationId)
    (wait : Session.Wait) (active : Option ActiveCall)
    (next : Session.Outcome → TaskProgram TaskResult) : World × Bool :=
  match active with
  | some call =>
    match w.progress call with
    | none => (w, false)
    | some (w, .ok active) =>
      (w.setRunner id { r with stage := .operation operation wait (some active) next }, false)
    | some (w, .error answer) => w.resumeOperation id r operation (inputFor wait answer) next
  | none =>
    match wait with
    | .time due => if w.now < due then (w, false) else w.resumeOperation id r operation .turn next
    | .turn | .change _ => w.resumeOperation id r operation .turn next
    | wait => w.follow id r operation wait next

/-! ## Requests -/

/-- A call of a task. -/
def makeCall (w : World) (id : TaskId) (r : Runner) (call : ClientCall)
    (next : Except PageError Json → TaskProgram TaskResult) : World × Bool :=
  match w.call call with
  | (w, .error answer) => (w.goOn id r (next answer), true)
  | (w, .ok active) => (w.setRunner id { r with stage := .calling active next }, false)

/-- Sends progress where the task sends it. -/
def report (w : World) (r : Runner) (event : ProgressEvent) : World × Runner :=
  match r.sink with
  | .nowhere => (w, r)
  | .kept events => (w, { r with sink := .kept (event :: events) })
  | .forwarder task =>
    match w.job? task with
    | some (.forward link relayId events isClosed) =>
      ((w.setJob task (.forward link relayId (events ++ [event]) isClosed)).wake task, r)
    | _ => (w, r)

def manager (w : World) (r : Runner) : Session.Manager := (w.managed r.manager).manager

/-- Carries out a request of a run. -/
def performRun (w : World) (id : TaskId) (r : Runner) :
    (request : Run.Request) → (request.Answer → TaskProgram TaskResult) → World × Bool
  | .page session call, next => w.makeCall id r (.page session call) next
  | .now, next => (w.goOn id r (next w.now), true)
  | .sleep ms, next =>
    if ms = 0 then (w.goOn id r (next ()), true)
    else (w.setRunner id { r with stage := .sleeping (w.now + ms) (next ()) }, false)
  | .isCancelled, next => (w.goOn id r (next (r.flag.any w.registry.isCancelled)), true)
  | .progress event, next =>
    let (w, r) := w.report r event
    (w.goOn id r (next ()), true)
  | .recover stale, next =>
    w.beginOperation id r ((w.manager r).recover w.now stale) fun
      | .recovered handle => next handle
      | _ => next none
  | .acquire target, next =>
    w.beginOperation id r ((w.manager r).acquire target) fun _ => next ()
  | .release _, next =>
    let w := match r.lease with
      | some lease => w.setManager r.manager ((w.manager r).release lease)
      | none => w
    (w.goOn id { r with lease := none } (next ()), true)
  | .attach target, next =>
    w.beginOperation id r ((w.manager r).ensure w.now target) fun
      | .attached result => next result
      | _ => .done .nothing
  | .detach target, next =>
    w.beginOperation id r ((w.manager r).detach w.now target) fun
      | .detached result => next result
      | _ => .done .nothing

/-- Carries out a request of the worker. -/
def performWorker (w : World) (id : TaskId) (r : Runner) :
    (request : Worker.Request) → (request.Answer → TaskProgram TaskResult) → World × Bool
  | .run request, next => w.performRun id r request next
  | .load scriptId, next => (w.goOn id r (next (w.load scriptId)), true)
  | .classify text, next => (w.goOn id r (next (w.classify text)), true)
  | .register scriptId, next =>
    let (registry, flag) := w.registry.register scriptId
    ({ w with registry }.goOn id r (next flag), true)
  | .unregister scriptId flag, next =>
    ({ w with registry := w.registry.unregister scriptId flag }.goOn id r (next ()), true)
  | .isCancelled flag, next => (w.goOn id r (next (w.registry.isCancelled flag)), true)
  | .cancel scriptId, next =>
    let (registry, found) := w.registry.cancel scriptId
    ({ w with registry }.goOn id r (next found), true)

/-- Carries out a request of a task. -/
def perform (w : World) (id : TaskId) (r : Runner) :
    (request : Request) → (request.Answer → TaskProgram TaskResult) → World × Bool
  | .worker request, next => w.performWorker id r request next
  | .client call, next => w.makeCall id r call next
  | .send port command, next =>
    match w.exchange with
    | none => (w.goOn id r (next (.error .closed)), true)
    | some x =>
      match x.send port command with
      | (x, none) => ((w.setExchange x).goOn id r (next (.error .closed)), true)
      | (x, some request) =>
        let deadline := w.now + x.orchestrator.config.backstop
        ((w.setExchange x).setRunner id { r with stage := .sending port request deadline next }, false)
  | .nextNote port, next => (w.setRunner id { r with stage := .reading port next }, true)
  | .countPending, next =>
    match w.exchange with
    | none => (w.goOn id r (next (0 : Nat)), true)
    | some x =>
      if x.isRunning then
        let asker := w.nextAsker
        let w := { w with nextAsker := asker + 1 }.setExchange (x.tell (.count asker))
        (w.setRunner id { r with stage := .counting asker next }, false)
      else (w.goOn id r (next (0 : Nat)), true)
  | .putInOrder name, next => ({ w with order := name :: w.order }.goOn id r (next ()), true)
  | .startForwarding link relayId, next =>
    let (w, task) := w.spawn (.forward link relayId [] false)
    (w.goOn id { r with sink := .forwarder task } (next ()), true)
  | .finishForwarding, next =>
    match r.sink with
    | .forwarder task =>
      match w.job? task with
      | some (.forward link relayId events _) =>
        let w := (w.setJob task (.forward link relayId events true)).wake task
        (w.setRunner id { r with stage := .forwarding task (next ()) }, false)
      | _ => (w.goOn id r (next ()), true)
    | _ => (w.goOn id r (next ()), true)
  | .answer link message, next =>
    ((w.withExchange fun x => x.answer link message).goOn id r (next ()), true)

/-! ## Runners -/

/-- A task that came to nothing is forgotten. -/
def finish (w : World) (id : TaskId) (r : Runner) : TaskResult → World
  | .nothing => w.remove id
  | result => w.setRunner id { r with stage := .over result }

/-- One step of a runner; the flag tells whether there is more to do at once. -/
def stepRunner (w : World) (id : TaskId) (r : Runner) : World × Bool :=
  match r.stage with
  | .running (.done result) => (w.finish id r result, false)
  | .running (.ask request next) => w.perform id r request next
  | .operation operation wait active next => w.stepOperation id r operation wait active next
  | .calling active next =>
    match w.progress active with
    | none => (w, false)
    | some (w, .error answer) => (w.goOn id r (next answer), true)
    | some (w, .ok active) => (w.setRunner id { r with stage := .calling active next }, false)
  | .sleeping due next => if w.now < due then (w, false) else (w.goOn id r next, true)
  | .sending port request deadline next =>
    match w.exchange with
    | none => (w, false)
    | some x =>
      match x.fetch port request with
      | (x, some result) => (((w.setExchange x).goOn id r (next result)).dropPorts, true)
      | (x, none) =>
        if w.now < deadline then (w, false)
        else
          let w := w.setExchange (x.giveUp port request)
          ((w.goOn id r (next (.error .timeout))).dropPorts, true)
  | .reading port next =>
    match w.exchange with
    | none => (w.goOn id r (next none), true)
    | some x =>
      match (x.port port).notes with
      | note :: rest =>
        let x := x.updatePort port fun port => { port with notes := rest }
        ((w.setExchange x).goOn id r (next (some note)), true)
      | [] =>
        if (x.port port).mayGetNotes then (w, false) else (w.goOn id r (next none), true)
  | .counting asker next =>
    match w.exchange with
    | none => (w, false)
    | some x =>
      match x.counts.find? fun count => count.1 == asker with
      | some count =>
        let x := { x with counts := x.counts.filter fun count => count.1 != asker }
        ((w.setExchange x).goOn id r (next count.2), true)
      | none => (w, false)
  | .forwarding task next =>
    match w.job? task with
    | none => (w.goOn id r next, true)
    | some _ => (w, false)
  | .over _ => (w, false)

def pollRunner (id : TaskId) : (steps : Nat) → World → World
  | 0, w => w.wake id
  | steps + 1, w =>
    match w.job? id with
    | some (.runner r) =>
      let (w, more) := w.stepRunner id r
      if more then pollRunner id steps w else w
    | _ => w

/-! ## Other tasks -/

def pollEvents (w : World) (i : Nat) : World :=
  let events := (w.managed i).events
  let w := w.updateManaged i fun entry => { entry with events := [] }
  events.foldl (fun w event => w.setManager i ((w.managed i).manager.notice event)) w

/-- The connector answers. -/
def connectLink (w : World) (x : Relay.Exchange) : World :=
  let w := { w with attempts := w.now :: w.attempts }
  match w.connector with
  | .worker =>
    let (x, link) := x.openLink
    ((w.spawn (.serve link)).1).setExchange (x.connected w.now (some link))
  | .manual 0 =>
    let (x, link) := x.openLink
    w.setExchange (x.connected w.now (some link))
  | .manual (refusals + 1) =>
    { w with connector := .manual refusals }.setExchange (x.connected w.now none)

/-- One step of the orchestrator; the flag tells whether there is more to do at once. -/
def stepOrchestrator (w : World) (x : Relay.Exchange) : World × Bool :=
  match x.orchestrator.activity with
  | .stopped => (w, false)
  | .connecting _ _ _ => (w.connectLink x, true)
  | .pausing _ _ due => if w.now < due then (w, false) else (w.setExchange x.pauseOver, true)
  | .idle =>
    if !x.inbox.isEmpty then (w.setExchange (x.takeMessage w.now), true)
    else
      let sweep := x.orchestrator.nextSweep ≤ w.now
      match x.orchestrator.link with
      | some link =>
        if !(x.link link).messages.isEmpty || !(x.link link).mayAnswer then
          (w.setExchange (x.takeAnswer link), true)
        else if sweep then (w.setExchange (x.sweep w.now), true)
        else (w, false)
      | none => if sweep then (w.setExchange (x.sweep w.now), true) else (w, false)

def pollOrchestrator : (steps : Nat) → World → World
  | 0, w => w
  | steps + 1, w =>
    match w.exchange with
    | none => w
    | some x =>
      let (w, more) := w.stepOrchestrator x
      if more then pollOrchestrator steps w else w

/-- What is done about a request on a link: it is handled while its progress is passed on, and the
reply follows the progress. -/
def answering (config : Worker.Config) (link : Relay.LinkId) (request : Relay.LinkRequest) :
    TaskProgram TaskResult := do
  Program.request (Request.startForwarding link request.relayId)
  let reply ← (Worker.handle config request.command).interpret fun request =>
    Program.request (Request.worker request)
  Program.request Request.finishForwarding
  Program.request (Request.answer link (.response request.relayId reply))
  return .nothing

def spawnHandler (link : Relay.LinkId) (w : World) (request : Relay.LinkRequest) : World :=
  let stage : Stage := .running (answering w.worker link request)
  (w.spawn (.runner ⟨0, none, .nowhere, none, stage⟩)).1

/-- Hands every request on a link to a task of its own. -/
def pollServe (w : World) (id : TaskId) (link : Relay.LinkId) : World :=
  match w.exchange with
  | none => w
  | some x =>
    let requests := (x.link link).requests
    let w := w.setExchange (x.updateLink link fun link => { link with requests := [] })
    let w := requests.foldl (spawnHandler link) w
    if (x.link link).isDropped then w.remove id else w

def isForwarding (task : TaskId) : Job → Bool
  | .runner ⟨_, _, _, _, .forwarding forwarder _⟩ => forwarder == task
  | _ => false

def pollForward (w : World) (id : TaskId) (link : Relay.LinkId) (relayId : Relay.RelayId)
    (events : List ProgressEvent) (isClosed : Bool) : World :=
  let w := events.foldl (fun w event =>
    w.withExchange fun x => x.answer link (.progress relayId event)) w
  if isClosed then
    let waiting := w.tasksWhere (isForwarding id)
    (w.remove id).wakeAll waiting
  else w.setJob id (.forward link relayId [] false)

def pollReceive (w : World) : World :=
  match w.client with
  | .channel channel =>
    { w with client := .channel { channel with arrivals := [] } }.takeArrivals channel.arrivals
  | .browser _ _ => w

/-- The turn of a task. -/
def poll (w : World) (id : TaskId) : World :=
  match w.job? id with
  | none => w
  | some (.runner _) => pollRunner id stepLimit w
  | some (.events i) => w.pollEvents i
  | some .orchestrator => pollOrchestrator stepLimit w
  | some (.dispatch port) => w.withExchange fun x => x.dispatch port
  | some (.serve link) => w.pollServe id link
  | some (.forward link relayId events isClosed) => w.pollForward id link relayId events isClosed
  | some .receive => w.pollReceive

/-! ## The end of a task -/

/-- The result of a task that is over. -/
def result? (w : World) (id : TaskId) : Option (Runner × TaskResult) :=
  match w.job? id with
  | some (.runner r) =>
    match r.stage with
    | .over result => some (r, result)
    | _ => none
  | _ => none

/-- Gives a task up: what it was doing ends, and a lease it has is given back. -/
def drop (w : World) (id : TaskId) : World :=
  match w.job? id with
  | some (.runner r) =>
    let w := match r.stage with
      | .operation operation _ _ _ => w.setManager r.manager ((w.manager r).abandon operation)
      | _ => w
    let w := match r.lease with
      | some lease => w.setManager r.manager ((w.manager r).release lease)
      | none => w
    (w.remove id).dropPorts
  | _ => w.remove id

end World

end BrowserScript.Simulation

import BrowserScript.Relay.Orchestrator

/-!
# The exchange

The orchestrator together with its ports and links, and the messages on their way between them. A
port numbers its requests by itself and waits for each of them; what comes back for it is sorted
into answers and notes. A link carries requests to the worker and messages back; either end may be
dropped.
-/

namespace BrowserScript.Relay

/-- A note of progress for one request of a port. -/
structure Notification where
  request : RequestId
  event : ProgressEvent
  deriving DecidableEq, Repr

structure Port where
  /-- Requests made so far. -/
  lastRequest : RequestId
  /-- Messages of the orchestrator on their way. -/
  inbox : List PortMessage
  /-- Requests that wait for an answer. -/
  waiters : List RequestId
  /-- Answers not yet fetched. -/
  answers : List (RequestId × Except RelayError Reply)
  notes : List Notification
  /-- The caller still has it. -/
  isOpen : Bool
  /-- The orchestrator may still send to it. -/
  isConnected : Bool

instance : Inhabited Port := ⟨⟨0, [], [], [], [], false, false⟩⟩

/-- More notes may come: the orchestrator still sends, or something is on its way. -/
def Port.mayGetNotes (port : Port) : Bool := port.isConnected || !port.inbox.isEmpty

structure Link where
  /-- Requests on their way to the worker. -/
  requests : List LinkRequest
  /-- Messages on their way to the orchestrator. -/
  messages : List LinkMessage
  /-- The worker takes requests. -/
  takesRequests : Bool
  /-- The worker may still send messages. -/
  mayAnswer : Bool
  /-- The orchestrator has dropped it. -/
  isDropped : Bool
  deriving Repr, Inhabited

/-- Who has something to do. -/
inductive Party where
  | orchestrator
  | port (port : PortId)
  | sender (port : PortId) (request : RequestId)
  | reader (port : PortId)
  | worker (link : LinkId)
  | asker (asker : Nat)
  deriving DecidableEq, Repr

structure Exchange where
  orchestrator : Orchestrator
  /-- Messages on their way to the orchestrator. -/
  inbox : List Message
  ports : List Port
  links : List Link
  /-- Answers to those who asked for the number of unanswered requests. -/
  counts : List (Nat × Nat)
  woken : List Party

namespace Exchange

def start (config : RelayConfig) (now : Nat) : Exchange where
  orchestrator := .start config now
  inbox := []
  ports := []
  links := []
  counts := []
  woken := [.orchestrator]

def wake (x : Exchange) (party : Party) : Exchange := { x with woken := x.woken ++ [party] }

/-- Ports are numbered from one. -/
def port (x : Exchange) : PortId → Port
  | 0 => default
  | i + 1 => x.ports.getD i default

def updatePort (x : Exchange) : PortId → (Port → Port) → Exchange
  | 0, _ => x
  | i + 1, f => { x with ports := x.ports.modify i f }

def link (x : Exchange) (id : LinkId) : Link := x.links.getD id default

def updateLink (x : Exchange) (id : LinkId) (f : Link → Link) : Exchange :=
  { x with links := x.links.modify id f }

def isRunning (x : Exchange) : Bool := x.orchestrator.activity != .stopped

/-- Sends to the orchestrator, which takes nothing in once it has stopped. -/
def tell (x : Exchange) (message : Message) : Exchange :=
  if x.isRunning then { x with inbox := x.inbox ++ [message] }.wake .orchestrator else x

/-! ## Ports -/

def openPort (x : Exchange) : Exchange × PortId :=
  let id := x.ports.length + 1
  let port : Port := ⟨0, [], [], [], [], true, x.isRunning⟩
  ((({ x with ports := x.ports ++ [port] }).tell (.openPort id)).wake (.port id), id)

/-- The caller drops a port. -/
def closePort (x : Exchange) (id : PortId) : Exchange :=
  (x.updatePort id fun port => { port with isOpen := false, inbox := [] }).tell (.closePort id)

/-- Makes a request. `none` if nobody takes it. -/
def send (x : Exchange) (id : PortId) (command : Command) : Exchange × Option RequestId :=
  let request := (x.port id).lastRequest + 1
  let x := x.updatePort id fun port => { port with lastRequest := request }
  if x.isRunning then
    ((x.updatePort id fun port => { port with waiters := port.waiters ++ [request] }).tell
      (.request id request command), some request)
  else (x, none)

/-- Stops waiting for an answer. -/
def giveUp (x : Exchange) (id : PortId) (request : RequestId) : Exchange :=
  x.updatePort id fun port =>
    { port with waiters := port.waiters.filter fun waiter => waiter != request }

/-- Fetches the answer to a request, if it has come. -/
def fetch (x : Exchange) (id : PortId) (request : RequestId) :
    Exchange × Option (Except RelayError Reply) :=
  match (x.port id).answers.find? fun answer => answer.1 == request with
  | some answer =>
    (x.updatePort id fun port =>
      { port with answers := port.answers.filter fun answer => answer.1 != request }, some answer.2)
  | none => (x, none)

/-- An answer for a request that still waits. -/
def deliver (x : Exchange) (id : PortId) (request : RequestId)
    (result : Except RelayError Reply) : Exchange :=
  if (x.port id).waiters.contains request then
    ((x.giveUp id request).updatePort id fun port =>
      { port with answers := port.answers ++ [(request, result)] }).wake (.sender id request)
  else x

/-- Sorts a message of the orchestrator. -/
def sort (x : Exchange) (id : PortId) : PortMessage → Exchange
  | .response request result => x.deliver id request result
  | .progress request event =>
    (x.updatePort id fun port => { port with notes := port.notes ++ [⟨request, event⟩] }).wake
      (.reader id)

/-- Sorts the next message that has come for a port. -/
def sortNext (x : Exchange) (id : PortId) : Exchange :=
  match (x.port id).inbox with
  | [] => x
  | message :: rest => (x.updatePort id fun port => { port with inbox := rest }).sort id message

/-- Tells all who wait on a port that nothing more can come. -/
def hangUp (x : Exchange) (id : PortId) : Exchange :=
  ((x.port id).waiters.foldl (fun x request => x.deliver id request (.error .closed)) x).wake
    (.reader id)

/-- Sorts everything that has come for a port, and hangs up when nothing more can come. -/
def dispatch (x : Exchange) (id : PortId) : Exchange :=
  let sorted := Nat.repeat (fun x => x.sortNext id) (x.port id).inbox.length x
  if (sorted.port id).isConnected then sorted else sorted.hangUp id

def drainNotes (x : Exchange) (id : PortId) : Exchange × List Notification :=
  (x.updatePort id fun port => { port with notes := [] }, (x.port id).notes)

/-! ## Links -/

/-- A new link whose worker end is live. -/
def openLink (x : Exchange) : Exchange × LinkId :=
  ({ x with links := x.links ++ [⟨[], [], true, true, false⟩] }, x.links.length)

/-- The orchestrator drops its ends of all links but the one it uses. -/
def dropUnused (x : Exchange) : Exchange :=
  let current := x.orchestrator.link
  (List.range x.links.length).foldl (fun x id =>
    if current = some id || (x.link id).isDropped then x
    else
      (x.updateLink id fun link => { link with isDropped := true, messages := [] }).wake (.worker id)) x

/-- The worker sends a message, if the orchestrator still listens. -/
def answer (x : Exchange) (id : LinkId) (message : LinkMessage) : Exchange :=
  if (x.link id).isDropped then x
  else
    (x.updateLink id fun link => { link with messages := link.messages ++ [message] }).wake
      .orchestrator

/-- The worker takes the next request of a link. -/
def takeRequest (x : Exchange) (id : LinkId) : Exchange × Option LinkRequest :=
  match (x.link id).requests with
  | [] => (x, none)
  | request :: rest => (x.updateLink id fun link => { link with requests := rest }, some request)

/-- The worker drops the end that requests arrive on. -/
def stopRequests (x : Exchange) (id : LinkId) : Exchange :=
  x.updateLink id fun link => { link with takesRequests := false, requests := [] }

/-- The worker drops both ends. -/
def dropLink (x : Exchange) (id : LinkId) : Exchange :=
  ((x.stopRequests id).updateLink id fun link => { link with mayAnswer := false }).wake .orchestrator

/-! ## The orchestrator at work -/

def takesRequests (x : Exchange) (id : LinkId) : Bool := (x.link id).takesRequests

/-- Puts what a step sends on its way. Returns whether the connector is asked, and how long to
pause. -/
def carryOut (x : Exchange) : Sending → Exchange
  | .toPort id message =>
    if (x.port id).isOpen then
      (x.updatePort id fun port => { port with inbox := port.inbox ++ [message] }).wake (.port id)
    else x
  | .toWorker id request =>
    (x.updateLink id fun link => { link with requests := link.requests ++ [request] }).wake (.worker id)
  | .pendingCount asker count => { x with counts := x.counts ++ [(asker, count)] }.wake (.asker asker)
  | .connect | .pause _ => x

def apply (x : Exchange) (step : Orchestrator.Step) : Exchange :=
  (step.2.foldl carryOut { x with orchestrator := step.1 }).dropUnused

/-- When the orchestrator has stopped, nothing more can come for any port. -/
def settleStop (x : Exchange) : Exchange :=
  if x.isRunning then x
  else
    let x := { x with
      inbox := []
      counts := x.counts ++ x.inbox.filterMap fun message =>
        match message with
        | .count asker => some (asker, 0)
        | _ => none
      ports := x.ports.map fun port => { port with isConnected := false } }
    let askers := x.counts.map fun count => Party.asker count.1
    let ports := (List.range x.ports.length).map fun i => Party.port (i + 1)
    (ports ++ askers).foldl wake x

/-- The orchestrator takes in the next message of its ports. -/
def takeMessage (x : Exchange) (now : Nat) : Exchange :=
  match x.inbox with
  | [] => x
  | message :: rest =>
    ({ x with inbox := rest }.apply
      (x.orchestrator.receive now x.takesRequests message)).settleStop

/-- The orchestrator takes in the next message of the worker, or notices that none can come. -/
def takeAnswer (x : Exchange) (id : LinkId) : Exchange :=
  match (x.link id).messages with
  | message :: rest =>
    (x.updateLink id fun link => { link with messages := rest }).apply
      (x.orchestrator.receiveFromWorker message)
  | [] => x.apply x.orchestrator.linkLost

def sweep (x : Exchange) (now : Nat) : Exchange := x.apply (x.orchestrator.sweep now)

/-- The connector has answered. -/
def connected (x : Exchange) (now : Nat) (link : Option LinkId) : Exchange :=
  x.apply (x.orchestrator.connected now x.takesRequests link)

def pauseOver (x : Exchange) : Exchange := x.apply x.orchestrator.pauseOver

end Exchange

end BrowserScript.Relay

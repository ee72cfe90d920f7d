import BrowserScript.Text.Blank
import BrowserScript.Settings
import BrowserScript.Relay.Command
import BrowserScript.Relay.Error

/-!
# The orchestrator

The orchestrator stands between many ports and one worker. It gives every request a number of its
own before it goes to the worker, and brings the answer back to the port and the request the number
stands for. It takes in one thing at a time; each step says what is to be sent. Main definitions:
`Orchestrator.receive`, `Orchestrator.receiveFromWorker`, `Orchestrator.connected`,
`Orchestrator.linkLost`, `Orchestrator.sweep`, `Orchestrator.stop`.
-/

namespace BrowserScript.Relay

abbrev PortId := Nat
abbrev RequestId := Nat
abbrev RelayId := Nat
abbrev LinkId := Nat

structure RelayConfig where
  /-- A request is given up after this long. -/
  timeout : Nat
  /-- The time between two sweeps; not zero. -/
  sweepInterval : Nat
  reconnectAttempts : Nat
  reconnectBackoff : Nat
  /-- Laid under the parameters of every script that is run. -/
  defaults : Variables
  deriving DecidableEq, Repr

namespace RelayConfig

def ofSettings (settings : RelaySettings) (defaults : Variables) : RelayConfig where
  timeout := settings.timeoutMs.toNat
  sweepInterval := settings.sweepInterval
  reconnectAttempts := settings.reconnectAttempts.toNat
  reconnectBackoff := settings.reconnectBackoffMs.toNat
  defaults := defaults

/-- How long a port waits for an answer by itself. -/
def backstop (config : RelayConfig) : Nat := config.timeout + config.sweepInterval + 1000

end RelayConfig

/-- What a port is sent. -/
inductive PortMessage where
  | response (request : RequestId) (result : Except RelayError Reply)
  | progress (request : RequestId) (event : ProgressEvent)

/-- What the orchestrator is sent. -/
inductive Message where
  | openPort (port : PortId)
  | closePort (port : PortId)
  | request (port : PortId) (request : RequestId) (command : Command)
  /-- Asks for the number of unanswered requests. -/
  | count (asker : Nat)
  | shutdown
  deriving Repr

/-- What the worker is sent. -/
structure LinkRequest where
  relayId : RelayId
  command : Command
  deriving DecidableEq, Repr

/-- What the worker sends. -/
inductive LinkMessage where
  | response (relayId : RelayId) (reply : Reply)
  | progress (relayId : RelayId) (event : ProgressEvent)
  deriving DecidableEq, Repr

/-- A request that has gone to the worker and is not answered yet. -/
structure Pending where
  relayId : RelayId
  port : PortId
  request : RequestId
  timeoutAt : Nat
  deriving DecidableEq, Repr

/-- A request that waits for a link. -/
structure Waiting where
  port : PortId
  request : RequestId
  command : Command
  deriving DecidableEq, Repr

inductive Activity where
  /-- Takes in the next thing. -/
  | idle
  /-- Waits for the connector. -/
  | connecting (attempt attempts : Nat) (waiting : Option Waiting)
  /-- Waits until a time before the next attempt. -/
  | pausing (attempt attempts : Nat) (due : Nat)
  | stopped
  deriving DecidableEq, Repr

/-- What a step sends. -/
inductive Sending where
  | toPort (port : PortId) (message : PortMessage)
  | toWorker (link : LinkId) (request : LinkRequest)
  /-- Asks the connector for a link. -/
  | connect
  | pause (ms : Nat)
  | pendingCount (asker count : Nat)

structure Orchestrator where
  config : RelayConfig
  activity : Activity
  link : Option LinkId
  ports : List PortId
  pending : List Pending
  /-- Relay ids given out so far. -/
  lastRelayId : RelayId
  nextSweep : Nat
  deriving Repr

namespace Orchestrator

def start (config : RelayConfig) (now : Nat) : Orchestrator where
  config := config
  activity := .idle
  link := none
  ports := []
  pending := []
  lastRelayId := 0
  nextSweep := now

abbrev Step := Orchestrator × List Sending

/-- An answer for a port, unless it has been closed. -/
def respond (o : Orchestrator) (port : PortId) (request : RequestId)
    (result : Except RelayError Reply) : List Sending :=
  if o.ports.contains port then [.toPort port (.response request result)] else []

def respondAll (o : Orchestrator) (entries : List Pending) (error : RelayError) : List Sending :=
  entries.flatMap fun entry => o.respond entry.port entry.request (.error error)

/-! ## Commands -/

/-- The part of a command that must not be blank, and what it is. -/
def essential : Command → String × String
  | .runScript scriptId _ _ _ | .cancel scriptId => (scriptId, "script id")
  | .processIntent text _ => (text, "intent text")
  | .attach target | .detach target => (target, "target")

def withDefaults (defaults : Variables) : Command → Command
  | .runScript scriptId parameters target detachAfter =>
    .runScript scriptId (defaults.merge parameters) target detachAfter
  | command => command

/-- A command as it goes to the worker. -/
def prepare (o : Orchestrator) (command : Command) : Except RelayError Command :=
  let (text, what) := essential command
  if Text.isBlankText text then .error (.invalidCommand s!"{what} is empty")
  else .ok (withDefaults o.config.defaults command)

/-! ## The link -/

/-- Asks the connector for a link. -/
def connect (o : Orchestrator) (attempt attempts : Nat) (waiting : Option Waiting) : Step :=
  ({ o with activity := .connecting attempt attempts waiting }, [.connect])

/-- Everything in flight is given up, and a new link is asked for. -/
def linkLost (o : Orchestrator) : Step :=
  let lost := o.respondAll o.pending .timeout
  let (o, sendings) :=
    { o with link := none, pending := [] }.connect 1 o.config.reconnectAttempts none
  (o, lost ++ sendings)

/-- Sends a prepared request on the link. `isOpen` says whether the worker still takes requests on
it. -/
def transmit (o : Orchestrator) (now : Nat) (isOpen : LinkId → Bool) (link : LinkId)
    (request : Waiting) : Step :=
  let relayId := o.lastRelayId + 1
  let o := { o with lastRelayId := relayId, activity := .idle }
  if isOpen link then
    let entry : Pending := ⟨relayId, request.port, request.request, now + o.config.timeout⟩
    ({ o with pending := o.pending ++ [entry] }, [.toWorker link ⟨relayId, request.command⟩])
  else
    let refused := o.respond request.port request.request (.error .disconnected)
    let (o, sendings) := o.linkLost
    (o, refused ++ sendings)

/-- Takes a request on its way to the worker. -/
def forward (o : Orchestrator) (now : Nat) (isOpen : LinkId → Bool) (port : PortId)
    (request : RequestId) (command : Command) : Step :=
  match o.prepare command with
  | .error error => (o, o.respond port request (.error error))
  | .ok command =>
    match o.link with
    | some link => o.transmit now isOpen link ⟨port, request, command⟩
    | none => o.connect 1 1 (some ⟨port, request, command⟩)

/-- The answer of the connector. -/
def connected (o : Orchestrator) (now : Nat) (isOpen : LinkId → Bool) (link : Option LinkId) :
    Step :=
  match o.activity, link with
  | .connecting _ _ waiting, some link =>
    let o := { o with link := some link, activity := .idle }
    match waiting with
    | some request => o.transmit now isOpen link request
    | none => (o, [])
  | .connecting attempt attempts waiting, none =>
    if attempt < attempts then
      let pause := o.config.reconnectBackoff * attempt
      ({ o with activity := .pausing attempt attempts (now + pause) }, [.pause pause])
    else
      let refused := waiting.toList.flatMap fun request =>
        o.respond request.port request.request (.error .disconnected)
      ({ o with activity := .idle }, refused)
  | _, _ => (o, [])

/-- The pause between two attempts is over. -/
def pauseOver (o : Orchestrator) : Step :=
  match o.activity with
  | .pausing attempt attempts _ => o.connect (attempt + 1) attempts none
  | _ => (o, [])

/-! ## Messages -/

/-- Answers everything in flight and takes in nothing more. -/
def stop (o : Orchestrator) : Step :=
  ({ o with activity := .stopped, link := none, ports := [], pending := [] },
    o.respondAll o.pending .closed)

/-- Takes in a message. -/
def receive (o : Orchestrator) (now : Nat) (isOpen : LinkId → Bool) : Message → Step
  | .openPort port => ({ o with ports := port :: o.ports }, [])
  | .closePort port =>
    ({ o with
      ports := o.ports.filter fun known => known != port
      pending := o.pending.filter fun entry => entry.port != port }, [])
  | .request port request command => o.forward now isOpen port request command
  | .count asker => (o, [.pendingCount asker o.pending.length])
  | .shutdown => o.stop

def findPending (o : Orchestrator) (relayId : RelayId) : Option Pending :=
  o.pending.find? fun entry => entry.relayId == relayId

/-- Takes in a message of the worker. A number that stands for nothing is passed over. -/
def receiveFromWorker (o : Orchestrator) : LinkMessage → Step
  | .response relayId reply =>
    match o.findPending relayId with
    | some entry =>
      ({ o with pending := o.pending.filter fun entry => entry.relayId != relayId },
        o.respond entry.port entry.request (.ok reply))
    | none => (o, [])
  | .progress relayId event =>
    match o.findPending relayId with
    | some entry =>
      (o, if o.ports.contains entry.port then [.toPort entry.port (.progress entry.request event)]
        else [])
    | none => (o, [])

/-! ## Sweeping -/

/-- A sweep this late puts off the ones that follow. -/
def sweepTolerance : Nat := 5

/-- Gives up what is too old. -/
def sweep (o : Orchestrator) (now : Nat) : Step :=
  let (expired, kept) := o.pending.partition fun entry => entry.timeoutAt ≤ now
  let next :=
    if o.nextSweep + sweepTolerance < now then now + o.config.sweepInterval
    else o.nextSweep + o.config.sweepInterval
  ({ o with pending := kept, nextSweep := next }, o.respondAll expired .timeout)

end Orchestrator

end BrowserScript.Relay

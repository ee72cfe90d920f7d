import BrowserScript.Relay.Orchestrator
import Mathlib.Data.List.Basic

/-!
# Turns of the orchestrator

The orchestrator takes in one thing at a time. `Orchestrator.Outcome` says once what each of them
can lead to; everything about runs is derived from it. A run is the list of its turns, each with
the orchestrator as it was before.
-/

set_option autoImplicit false

namespace BrowserScript.Relay

/-- What the orchestrator takes in. -/
inductive Input where
  | message (message : Message)
  | fromWorker (message : LinkMessage)
  /-- Nothing more can come from the worker. -/
  | linkEnded
  | sweep
  | connected (link : Option LinkId)
  | pauseOver

namespace Orchestrator

/-- While the orchestrator waits for the connector or pauses, it takes in nothing else. -/
def Expects (o : Orchestrator) : Input → Prop
  | .message _ | .sweep => o.activity = .idle
  | .fromWorker _ | .linkEnded => o.activity = .idle ∧ o.link.isSome
  | .connected _ => ∃ attempt attempts waiting, o.activity = .connecting attempt attempts waiting
  | .pauseOver => ∃ attempt attempts due, o.activity = .pausing attempt attempts due

theorem not_expects_of_stopped {o : Orchestrator} (stopped : o.activity = .stopped)
    (input : Input) : ¬ o.Expects input := by
  cases input <;> simp [Expects, stopped]

def take (o : Orchestrator) (now : Nat) (isOpen : LinkId → Bool) : Input → Step
  | .message message => o.receive now isOpen message
  | .fromWorker message => o.receiveFromWorker message
  | .linkEnded => o.linkLost
  | .sweep => o.sweep now
  | .connected link => o.connected now isOpen link
  | .pauseOver => o.pauseOver

/-- The input makes `o` put a request on a link: one that has just come, or the one that has waited
for this link. -/
inductive Hands (o : Orchestrator) : Input → LinkId → Waiting → Prop
  | fresh (port : PortId) (request : RequestId) (command prepared : Command) (link : LinkId) :
      o.prepare command = .ok prepared → o.link = some link → o.activity = .idle →
      Hands o (.message (.request port request command)) link ⟨port, request, prepared⟩
  | kept (attempt attempts : Nat) (link : LinkId) (waiting : Waiting) :
      o.activity = .connecting attempt attempts (some waiting) →
      Hands o (.connected (some link)) link waiting

def lost (o : Orchestrator) : Orchestrator :=
  { o with link := none, pending := [], activity := .connecting 1 o.config.reconnectAttempts none }

/-- The entry a request gets when it goes to the worker. -/
def entryFor (o : Orchestrator) (now : Nat) (request : Waiting) : Pending :=
  ⟨o.lastRelayId + 1, request.port, request.request, now + o.config.timeout⟩

/-- Everything an input can lead to. -/
inductive Outcome (o : Orchestrator) (now : Nat) (isOpen : LinkId → Bool) :
    Input → Orchestrator → List Sending → Prop
  | opened (port : PortId) :
      Outcome o now isOpen (.message (.openPort port)) { o with ports := port :: o.ports } []
  | closed (port : PortId) :
      Outcome o now isOpen (.message (.closePort port))
        { o with
          ports := o.ports.filter fun known => known != port
          pending := o.pending.filter fun entry => entry.port != port } []
  | refused (port : PortId) (request : RequestId) (command : Command) (error : RelayError) :
      o.prepare command = .error error →
      Outcome o now isOpen (.message (.request port request command)) o
        (o.respond port request (.error error))
  | asked (port : PortId) (request : RequestId) (command prepared : Command) :
      o.prepare command = .ok prepared → o.activity = .idle →
      Outcome o now isOpen (.message (.request port request command))
        { o with activity := .connecting 1 1 (some ⟨port, request, prepared⟩) } [.connect]
  | forwarded (input : Input) (link : LinkId) (request : Waiting) :
      o.Hands input link request → isOpen link = true →
      Outcome o now isOpen input
        { o with
          activity := .idle, link := some link, lastRelayId := o.lastRelayId + 1
          pending := o.pending ++ [o.entryFor now request] }
        [.toWorker link ⟨o.lastRelayId + 1, request.command⟩]
  | undeliverable (input : Input) (link : LinkId) (request : Waiting) :
      o.Hands input link request → isOpen link = false →
      Outcome o now isOpen input { o.lost with lastRelayId := o.lastRelayId + 1 }
        (o.respond request.port request.request (.error .disconnected) ++
          (o.respondAll o.pending .timeout ++ [.connect]))
  | counted (asker : Nat) :
      Outcome o now isOpen (.message (.count asker)) o [.pendingCount asker o.pending.length]
  | stopped :
      o.activity = .idle →
      Outcome o now isOpen (.message .shutdown)
        { o with activity := .stopped, link := none, ports := [], pending := [] }
        (o.respondAll o.pending .closed)
  | replied (relayId : RelayId) (reply : Reply) (entry : Pending) :
      o.findPending relayId = some entry →
      Outcome o now isOpen (.fromWorker (.response relayId reply))
        { o with pending := o.pending.filter fun entry => entry.relayId != relayId }
        (o.respond entry.port entry.request (.ok reply))
  | progressed (relayId : RelayId) (event : ProgressEvent) (entry : Pending) :
      o.findPending relayId = some entry →
      Outcome o now isOpen (.fromWorker (.progress relayId event)) o
        (if o.ports.contains entry.port then [.toPort entry.port (.progress entry.request event)]
          else [])
  | passedOver (message : LinkMessage) : Outcome o now isOpen (.fromWorker message) o []
  | ended :
      o.activity = .idle →
      Outcome o now isOpen .linkEnded o.lost (o.respondAll o.pending .timeout ++ [.connect])
  | swept (next : Nat) :
      Outcome o now isOpen .sweep
        { o with
          pending := o.pending.filter fun entry => !decide (entry.timeoutAt ≤ now)
          nextSweep := next }
        (o.respondAll (o.pending.filter fun entry => decide (entry.timeoutAt ≤ now)) .timeout)
  | linked (attempt attempts : Nat) (link : LinkId) :
      o.activity = .connecting attempt attempts none →
      Outcome o now isOpen (.connected (some link))
        { o with activity := .idle, link := some link } []
  | retried (attempt attempts pause : Nat) (waiting : Option Waiting) :
      o.activity = .connecting attempt attempts waiting → attempt < attempts →
      Outcome o now isOpen (.connected none)
        { o with activity := .pausing attempt attempts (now + pause) } [.pause pause]
  | unreachable (attempt attempts : Nat) (waiting : Option Waiting) :
      o.activity = .connecting attempt attempts waiting →
      Outcome o now isOpen (.connected none) { o with activity := .idle }
        (waiting.toList.flatMap fun request =>
          o.respond request.port request.request (.error .disconnected))
  | resumed (attempt attempts due : Nat) :
      o.activity = .pausing attempt attempts due →
      Outcome o now isOpen .pauseOver
        { o with activity := .connecting (attempt + 1) attempts none } [.connect]

/-! ## Each step has one of the outcomes -/

variable (o : Orchestrator) (now : Nat) (isOpen : LinkId → Bool)

private theorem transmit_outcome (input : Input) (link : LinkId) (request : Waiting)
    (handed : o.Hands input link request) :
    let step := { o with activity := .idle, link := some link }.transmit now isOpen link request
    o.Outcome now isOpen input step.1 step.2 := by
  by_cases isLive : isOpen link = true
  · simp only [transmit, isLive, if_true]
    exact .forwarded input link request handed isLive
  · simp only [transmit, isLive]
    exact .undeliverable input link request handed (by simpa using isLive)

private theorem forward_outcome (port : PortId) (request : RequestId) (command : Command)
    (idle : o.activity = .idle) :
    let step := o.forward now isOpen port request command
    o.Outcome now isOpen (.message (.request port request command)) step.1 step.2 := by
  unfold forward
  cases prepared : o.prepare command with
  | error error => exact .refused port request command error prepared
  | ok ready =>
    cases linked : o.link with
    | none => exact .asked port request command ready prepared idle
    | some link =>
      have handed : o.Hands (.message (.request port request command)) link
          ⟨port, request, ready⟩ := .fresh port request command ready link prepared linked idle
      have same : { o with activity := .idle, link := some link } = o := by
        rw [← idle, ← linked]
      have outcome := transmit_outcome o now isOpen _ link _ handed
      rw [same] at outcome
      exact outcome

private theorem connected_outcome (link : Option LinkId)
    (expected : o.Expects (.connected link)) :
    let step := o.connected now isOpen link
    o.Outcome now isOpen (.connected link) step.1 step.2 := by
  obtain ⟨attempt, attempts, waiting, asking⟩ := expected
  cases link with
  | some link =>
    cases waiting with
    | none =>
      simp only [connected, asking]
      exact .linked attempt attempts link asking
    | some request =>
      simp only [connected, asking]
      exact transmit_outcome o now isOpen _ link request
        (.kept attempt attempts link request asking)
  | none =>
    by_cases again : attempt < attempts
    · simp only [connected, asking, if_pos again]
      exact .retried attempt attempts _ waiting asking again
    · simp only [connected, asking, if_neg again]
      exact .unreachable attempt attempts waiting asking

private theorem receiveFromWorker_outcome (message : LinkMessage) :
    let step := o.receiveFromWorker message
    o.Outcome now isOpen (.fromWorker message) step.1 step.2 := by
  cases message with
  | response relayId reply =>
    cases found : o.findPending relayId with
    | none =>
      simp only [receiveFromWorker, found]
      exact .passedOver _
    | some entry =>
      simp only [receiveFromWorker, found]
      exact .replied relayId reply entry found
  | progress relayId event =>
    cases found : o.findPending relayId with
    | none =>
      simp only [receiveFromWorker, found]
      exact .passedOver _
    | some entry =>
      simp only [receiveFromWorker, found]
      exact .progressed relayId event entry found

private theorem sweep_outcome :
    o.Outcome now isOpen .sweep (o.sweep now).1 (o.sweep now).2 := by
  simp only [sweep, List.partition_eq_filter_filter]
  exact .swept _

/-- What the orchestrator does with an input it waits for is among the outcomes. -/
theorem take_outcome (input : Input) (expected : o.Expects input) :
    o.Outcome now isOpen input (o.take now isOpen input).1 (o.take now isOpen input).2 := by
  cases input with
  | message message =>
    have idle : o.activity = .idle := expected
    cases message with
    | openPort port => exact .opened port
    | closePort port => exact .closed port
    | request port request command => exact forward_outcome o now isOpen port request command idle
    | count asker => exact .counted asker
    | shutdown => exact .stopped idle
  | fromWorker message => exact receiveFromWorker_outcome o now isOpen message
  | linkEnded => exact .ended expected.1
  | sweep => exact sweep_outcome o now isOpen
  | connected link => exact connected_outcome o now isOpen link expected
  | pauseOver =>
    obtain ⟨attempt, attempts, due, pausing⟩ := expected
    simp only [take, pauseOver, pausing]
    exact .resumed attempt attempts due pausing

end Orchestrator

/-! ## Runs -/

/-- An input, and the orchestrator that takes it in. -/
structure Turn where
  now : Nat
  isOpen : LinkId → Bool
  input : Input
  before : Orchestrator

namespace Turn

def after (turn : Turn) : Orchestrator := (turn.before.take turn.now turn.isOpen turn.input).1

def sent (turn : Turn) : List Sending := (turn.before.take turn.now turn.isOpen turn.input).2

theorem outcome (turn : Turn) (expected : turn.before.Expects turn.input) :
    turn.before.Outcome turn.now turn.isOpen turn.input turn.after turn.sent :=
  turn.before.take_outcome turn.now turn.isOpen turn.input expected

end Turn

namespace Orchestrator

/-- All turns of an orchestrator from its start on, in order. -/
inductive Run (config : RelayConfig) (started : Nat) : List Turn → Orchestrator → Prop
  | start : Run config started [] (.start config started)
  | turn (turns : List Turn) (turn : Turn) :
      Run config started turns turn.before → turn.before.Expects turn.input →
      Run config started (turns ++ [turn]) turn.after

namespace Run

variable {config : RelayConfig} {started : Nat} {turns : List Turn} {o : Orchestrator}

/-- Every turn comes after a run of its own. -/
theorem before_turn (run : Run config started turns o) (earlier later : List Turn) (turn : Turn)
    (split : turns = earlier ++ turn :: later) :
    Run config started earlier turn.before ∧ turn.before.Expects turn.input := by
  induction run generalizing later with
  | start => simp at split
  | turn turns last run expected induction =>
    rcases List.eq_nil_or_concat later with rfl | ⟨rest, final, rfl⟩
    · obtain ⟨rfl, same⟩ := List.append_inj' split rfl
      obtain rfl : last = turn := by simpa using same
      exact ⟨run, expected⟩
    · have shorter : turns ++ [last] = (earlier ++ turn :: rest) ++ [final] := by
        rw [split]
        simp
      exact induction rest (List.append_inj' shorter rfl).1

theorem expected (run : Run config started turns o) {turn : Turn} (member : turn ∈ turns) :
    turn.before.Expects turn.input := by
  obtain ⟨earlier, later, split⟩ := List.append_of_mem member
  exact (run.before_turn earlier later turn split).2

end Run

end Orchestrator

end BrowserScript.Relay

import BrowserScript.Proofs.Relay.Account
import BrowserScript.Proofs.Relay.Frame

/-!
# The relay in traffic

The exchange with everybody at work on it: callers who open and drop ports, send and stop waiting,
the dispatcher of each port, the worker at the far end of the links, and the orchestrator. They
move one at a time in any order. The log keeps the turns of the orchestrator and what the callers
see.
-/

set_option autoImplicit false

namespace BrowserScript.Relay

/-! ## The orchestrator's next input -/

/-- Where the orchestrator takes its next input from. -/
inductive Intake where
  | message
  | answer (link : LinkId)
  | sweep
  | connected (link : Option LinkId)
  | pauseOver

namespace Exchange

/-- There is something to be taken in, and what it is. -/
inductive Offers (x : Exchange) (now : Nat) : Intake → Input → Prop
  | message (message : Message) (rest : List Message) :
      x.inbox = message :: rest → Offers x now .message (.message message)
  | answer (link : LinkId) (message : LinkMessage) (rest : List LinkMessage) :
      x.orchestrator.link = some link → (x.link link).messages = message :: rest →
      Offers x now (.answer link) (.fromWorker message)
  | ended (link : LinkId) :
      x.orchestrator.link = some link → (x.link link).messages = [] →
      (x.link link).mayAnswer = false → Offers x now (.answer link) .linkEnded
  | sweep : x.orchestrator.nextSweep ≤ now → Offers x now .sweep .sweep
  | linked (link : LinkId) :
      link < x.links.length → Offers x now (.connected (some link)) (.connected (some link))
  | refused : Offers x now (.connected none) (.connected none)
  | pauseOver (attempt attempts due : Nat) :
      x.orchestrator.activity = .pausing attempt attempts due → due ≤ now →
      Offers x now .pauseOver .pauseOver

def takeIn (x : Exchange) (now : Nat) : Intake → Exchange
  | .message => x.takeMessage now
  | .answer link => x.takeAnswer link
  | .sweep => x.sweep now
  | .connected link => x.connected now link
  | .pauseOver => x.pauseOver

def turn (x : Exchange) (now : Nat) (input : Input) : Turn :=
  ⟨now, x.takesRequests, input, x.orchestrator⟩

/-- What the connector and the worker do. -/
inductive LinkMove where
  | openLink
  | takeRequest (link : LinkId)
  | answer (link : LinkId) (message : LinkMessage)
  | stopRequests (link : LinkId)
  | dropLink (link : LinkId)

def moveLink (x : Exchange) : LinkMove → Exchange
  | .openLink => x.openLink.1
  | .takeRequest link => (x.takeRequest link).1
  | .answer link message => x.answer link message
  | .stopRequests link => x.stopRequests link
  | .dropLink link => x.dropLink link

end Exchange

/-! ## States and steps -/

/-- A send that has not returned yet. -/
structure Caller where
  port : PortId
  request : RequestId
  /-- When it stops waiting by itself. -/
  deadline : Nat

def Caller.key (caller : Caller) : RequestKey := (caller.port, caller.request)

inductive Event where
  | opened (port : PortId)
  /-- A send whose request goes to the orchestrator. -/
  | called (now : Nat) (port : PortId) (request : RequestId) (command : Command)
  | turn (turn : Turn)
  /-- A dispatcher has told all who waited on its port that nothing more can come. -/
  | hungUp (port : PortId)
  /-- A send returns. -/
  | returned (now : Nat) (port : PortId) (request : RequestId) (result : Except RelayError Reply)
  /-- The caller reads the notes of a port. -/
  | read (port : PortId) (notes : List Notification)

structure Traffic where
  now : Nat
  exchange : Exchange
  callers : List Caller
  /-- What has happened, oldest first. -/
  log : List Event

namespace Traffic

def start (config : RelayConfig) (now : Nat) : Traffic := ⟨now, .start config now, [], []⟩

/-- The turns among some events. -/
def turnsOf (log : List Event) : List Turn :=
  log.filterMap fun
    | .turn turn => some turn
    | _ => none

def turns (s : Traffic) : List Turn := turnsOf s.log

/-- The messages the orchestrator has taken in, and after them those on their way to it. -/
def stream (s : Traffic) : List Message := taken s.turns ++ s.exchange.inbox

def without (s : Traffic) (caller : Caller) : List Caller :=
  s.callers.filter fun other => other.key != caller.key

/-- One move of one of the parties. -/
inductive Step (config : RelayConfig) : Traffic → Traffic → Prop
  | wait (s : Traffic) (time : Nat) : Step config s { s with now := s.now + time }
  | openPort (s : Traffic) :
      Step config s
        { s with
          exchange := s.exchange.openPort.1
          log := s.log ++ [.opened s.exchange.openPort.2] }
  | closePort (s : Traffic) (port : PortId) :
      (s.exchange.port port).isOpen = true → (∀ caller ∈ s.callers, caller.port ≠ port) →
      Step config s { s with exchange := s.exchange.closePort port }
  /-- Somebody asks for the number of unanswered requests, or for the end. -/
  | tell (s : Traffic) (message : Message) :
      message.port? = none → Step config s { s with exchange := s.exchange.tell message }
  | send (s : Traffic) (port : PortId) (command : Command) (request : RequestId) :
      (s.exchange.port port).isOpen = true →
      (s.exchange.send port command).2 = some request →
      Step config s
        { s with
          exchange := (s.exchange.send port command).1
          callers := s.callers ++ [⟨port, request, s.now + config.backstop⟩]
          log := s.log ++ [.called s.now port request command] }
  | refuse (s : Traffic) (port : PortId) (command : Command) :
      (s.exchange.port port).isOpen = true →
      (s.exchange.send port command).2 = none →
      Step config s
        { s with
          exchange := (s.exchange.send port command).1
          log := s.log ++
            [.returned s.now port ((s.exchange.port port).lastRequest + 1) (.error .closed)] }
  | fetch (s : Traffic) (caller : Caller) (result : Except RelayError Reply) :
      caller ∈ s.callers →
      (s.exchange.fetch caller.port caller.request).2 = some result →
      Step config s
        { s with
          exchange := (s.exchange.fetch caller.port caller.request).1
          callers := s.without caller
          log := s.log ++ [.returned s.now caller.port caller.request result] }
  | giveUp (s : Traffic) (caller : Caller) :
      caller ∈ s.callers → caller.deadline ≤ s.now →
      (s.exchange.fetch caller.port caller.request).2 = none →
      Step config s
        { s with
          exchange := s.exchange.giveUp caller.port caller.request
          callers := s.without caller
          log := s.log ++ [.returned s.now caller.port caller.request (.error .timeout)] }
  /-- A send is dropped before it returns. -/
  | abandon (s : Traffic) (caller : Caller) : Step config s { s with callers := s.without caller }
  | sort (s : Traffic) (port : PortId) :
      (s.exchange.port port).isOpen = true →
      Step config s { s with exchange := s.exchange.sortNext port }
  | hangUp (s : Traffic) (port : PortId) :
      (s.exchange.port port).isOpen = true → (s.exchange.port port).inbox = [] →
      (s.exchange.port port).isConnected = false →
      Step config s
        { s with exchange := s.exchange.hangUp port, log := s.log ++ [.hungUp port] }
  | drain (s : Traffic) (port : PortId) :
      (s.exchange.port port).isOpen = true →
      Step config s
        { s with
          exchange := (s.exchange.drainNotes port).1
          log := s.log ++ [.read port (s.exchange.drainNotes port).2] }
  | link (s : Traffic) (move : Exchange.LinkMove) :
      Step config s { s with exchange := s.exchange.moveLink move }
  | turn (s : Traffic) (intake : Intake) (input : Input) :
      s.exchange.Offers s.now intake input → s.exchange.orchestrator.Expects input →
      Step config s
        { s with
          exchange := s.exchange.takeIn s.now intake
          log := s.log ++ [.turn (s.exchange.turn s.now input)] }

/-- A step adds at most one event to the log. -/
theorem Step.log {config : RelayConfig} {s after : Traffic} (step : Step config s after) :
    after.log = s.log ∨ ∃ event, after.log = s.log ++ [event] := by
  cases step with
  | openPort => exact .inr ⟨_, rfl⟩
  | send port command request isOpen accepted => exact .inr ⟨_, rfl⟩
  | refuse port command isOpen refused => exact .inr ⟨_, rfl⟩
  | fetch caller result waits fetched => exact .inr ⟨_, rfl⟩
  | giveUp caller waits late nothing => exact .inr ⟨_, rfl⟩
  | hangUp port isOpen sorted cut => exact .inr ⟨_, rfl⟩
  | drain port isOpen => exact .inr ⟨_, rfl⟩
  | turn intake input offered expected => exact .inr ⟨_, rfl⟩
  | _ => exact .inl rfl

/-- The states the relay can get into. -/
inductive Reaches (config : RelayConfig) (started : Nat) : Traffic → Prop
  | start : Reaches config started (.start config started)
  | step {s after : Traffic} :
      Reaches config started s → Step config s after → Reaches config started after

/-- Every event was logged by a step of its own. -/
theorem Reaches.logged {config : RelayConfig} {started : Nat} {s : Traffic}
    (reached : Reaches config started s) (earlier later : List Event) (event : Event)
    (split : s.log = earlier ++ event :: later) :
    ∃ before after, Reaches config started before ∧ Step config before after ∧
      before.log = earlier ∧ after.log = earlier ++ [event] := by
  induction reached generalizing later with
  | start => simp [Traffic.start] at split
  | @step s after reached step induction =>
    rcases step.log with same | ⟨last, same⟩
    · exact induction later (same ▸ split)
    · rcases List.eq_nil_or_concat later with rfl | ⟨rest, final, rfl⟩
      · obtain ⟨before, one⟩ := List.append_inj' (same.symm.trans split) rfl
        obtain rfl : last = event := by simpa using one
        exact ⟨s, after, reached, step, before, by rw [same, before]⟩
      · have shorter : s.log ++ [last] = (earlier ++ event :: rest) ++ [final] := by
          rw [← same, split]
          simp
        exact induction rest (List.append_inj' shorter rfl).1

end Traffic

end BrowserScript.Relay

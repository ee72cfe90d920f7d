import BrowserScript.Proofs.Relay.Traffic
import BrowserScript.Proofs.Relay.Verdict

/-!
# The flow of messages

However the parties move, the turns in the log are a run of the orchestrator, and the messages it
gets from the ports are orderly: a port is announced before it asks for anything, its requests are
numbered upwards, and nothing follows its closing.
-/

set_option autoImplicit false

namespace BrowserScript.Relay

namespace Exchange

variable {x y : Exchange} {id : PortId}

theorem moveLink_links (move : LinkMove) : LinksOnly x (x.moveLink move) := by
  cases move with
  | openLink => exact ⟨rfl, rfl, rfl⟩
  | takeRequest link =>
    simp only [moveLink, takeRequest]
    split <;> exact ⟨rfl, rfl, rfl⟩
  | answer link message =>
    simp only [moveLink, answer]
    split <;> exact ⟨rfl, rfl, rfl⟩
  | stopRequests link => exact ⟨rfl, rfl, rfl⟩
  | dropLink link => exact ⟨rfl, rfl, rfl⟩

/-- What a turn of the orchestrator does to the exchange. -/
structure Turned (before after : Exchange) (turn : Turn) : Prop where
  source : turn.before = before.orchestrator
  expected : turn.before.Expects turn.input
  orchestrator : after.orchestrator = turn.after
  inbox : ∃ left, before.inbox = turn.input.message?.toList ++ left ∧
    after.inbox = if after.isRunning then left else []
  count : after.ports.length = before.ports.length
  port : ∀ id, after.port id =
    { (before.port id).receive (addressedTo id turn.sent) with
      isConnected := (before.port id).isConnected && after.isRunning }

theorem receive_isConnected (port : Port) (messages : List PortMessage) :
    (port.receive messages).isConnected = port.isConnected := by
  unfold Port.receive
  split <;> rfl

/-- A turn that does not end the orchestrator, taking nothing from its inbox. -/
private theorem turned_apply (now : Nat) (input : Input) (step : Orchestrator.Step)
    (same : step = x.orchestrator.take now x.takesRequests input)
    (only : y.orchestrator = x.orchestrator ∧ y.inbox = x.inbox ∧ y.ports = x.ports)
    (expected : x.orchestrator.Expects input) (aside : input.message? = none) :
    Turned x (y.apply step) (x.turn now input) := by
  subst same
  obtain ⟨_, inbox, ports⟩ := only
  have goesOn : (x.turn now input).after.activity ≠ .stopped := by
    intro stops
    have last := ((x.turn now input).outcome expected).stopped_iff expected |>.mp stops
    rw [show input = .message .shutdown from last] at aside
    cases aside
  have running : (y.apply (x.orchestrator.take now x.takesRequests input)).isRunning = true := by
    unfold isRunning
    rw [apply_orchestrator]
    exact bne_iff_ne.mpr goesOn
  refine ⟨rfl, expected, apply_orchestrator _, ⟨x.inbox, ?_, ?_⟩, ?_, ?_⟩
  · simp [turn, aside]
  · rw [running, apply_inbox, inbox]
    rfl
  · rw [apply_count, ports]
  · intro id
    rw [running, apply_port, port_congr ports, Bool.and_true]
    exact congrArg (fun flag => { (x.port id).receive _ with isConnected := flag })
      (receive_isConnected _ _)

private theorem turned_message (now : Nat) (message : Message) (rest : List Message)
    (waiting : x.inbox = message :: rest) (expected : x.orchestrator.Expects (.message message)) :
    Turned x (x.takeMessage now) (x.turn now (.message message)) := by
  have taken : x.takeMessage now = ({ x with inbox := rest }.apply
      (x.orchestrator.receive now x.takesRequests message)).settleStop := by
    simp only [takeMessage, waiting]
  rw [taken]
  have ports : ∀ id, ({ x with inbox := rest }.apply
      (x.orchestrator.receive now x.takesRequests message)).port id =
        (x.port id).receive (addressedTo id (x.turn now (.message message)).sent) := by
    intro id
    rw [apply_port, port_congr rfl]
    rfl
  by_cases running : ({ x with inbox := rest }.apply
      (x.orchestrator.receive now x.takesRequests message)).isRunning = true
  · rw [settleStop_of_running running]
    refine ⟨rfl, expected, apply_orchestrator _, ⟨rest, waiting, ?_⟩, apply_count _, ?_⟩
    · rw [running, apply_inbox]
      rfl
    · intro id
      rw [running, ports, Bool.and_true]
      exact congrArg (fun flag => { (x.port id).receive _ with isConnected := flag })
        (receive_isConnected _ _)
  · have stopped := Bool.eq_false_iff.mpr running
    obtain ⟨orchestrator, inbox, cut⟩ := settleStop_of_stopped stopped
    have ended : ({ x with inbox := rest }.apply
        (x.orchestrator.receive now x.takesRequests message)).settleStop.isRunning = false := by
      unfold isRunning
      rw [orchestrator]
      exact stopped
    refine ⟨rfl, expected, by rw [orchestrator]; exact apply_orchestrator _, ⟨rest, waiting, ?_⟩,
      ?_, ?_⟩
    · rw [ended, inbox]
      rfl
    · rw [cut, List.length_map, apply_count]
    · intro id
      rw [ended, port_of_map rfl cut, ports, Bool.and_false]

/-- What is offered to the orchestrator is what its turn takes in. -/
theorem takeIn_turned {now : Nat} {intake : Intake} {input : Input}
    (offered : x.Offers now intake input) (expected : x.orchestrator.Expects input) :
    Turned x (x.takeIn now intake) (x.turn now input) := by
  cases offered with
  | message message rest waiting => exact turned_message now message rest waiting expected
  | answer link message rest linked waiting =>
    simp only [takeIn, takeAnswer, waiting]
    exact turned_apply now _ _ rfl ⟨rfl, rfl, rfl⟩ expected rfl
  | ended link linked empty dead =>
    simp only [takeIn, takeAnswer, empty]
    exact turned_apply now _ _ rfl ⟨rfl, rfl, rfl⟩ expected rfl
  | sweep due => exact turned_apply now _ _ rfl ⟨rfl, rfl, rfl⟩ expected rfl
  | linked link known => exact turned_apply now _ _ rfl ⟨rfl, rfl, rfl⟩ expected rfl
  | refused => exact turned_apply now _ _ rfl ⟨rfl, rfl, rfl⟩ expected rfl
  | pauseOver attempt attempts due pausing late =>
    exact turned_apply now _ _ rfl ⟨rfl, rfl, rfl⟩ expected rfl

end Exchange

namespace Orderly

/-- A message may follow if it may follow every one before, and if its port has been announced. -/
theorem snoc {messages : List Message} (orderly : Orderly messages) {message : Message}
    (follows : ∀ earlier ∈ messages, earlier.MayPrecede message)
    (announced : ∀ port, message.port? = some port → message ≠ .openPort port →
      .openPort port ∈ messages) : Orderly (messages ++ [message]) where
  ordered := by
    rw [List.pairwise_append]
    refine ⟨orderly.ordered, List.pairwise_singleton _ _, ?_⟩
    intro earlier member last isLast
    rw [List.mem_singleton.mp isLast]
    exact follows earlier member
  opened := by
    intro other member port about
    rcases List.mem_append.mp member with before | last
    · exact List.mem_append_left _ (orderly.opened other before port about)
    · obtain rfl := List.mem_singleton.mp last
      by_cases opening : other = .openPort port
      · rw [← opening]
        exact member
      · exact List.mem_append_left _ (announced port about opening)

end Orderly

namespace Traffic

variable {config : RelayConfig} {started : Nat} {s after : Traffic}

theorem turnsOf_append (log : List Event) (event : Event) :
    turnsOf (log ++ [event]) = turnsOf log ++ turnsOf [event] := by
  unfold turnsOf
  rw [List.filterMap_append]

/-- A step is a turn of the orchestrator, or does not concern it. -/
theorem Step.turned (step : Step config s after) :
    (after.turns = s.turns ∧ after.exchange.orchestrator = s.exchange.orchestrator) ∨
      ∃ input, after.turns = s.turns ++ [s.exchange.turn s.now input] ∧
        s.exchange.Turned after.exchange (s.exchange.turn s.now input) := by
  cases step with
  | wait time => exact .inl ⟨rfl, rfl⟩
  | openPort => exact .inl ⟨by simp [turns, turnsOf], Exchange.openPort_orchestrator⟩
  | closePort port isOpen unused => exact .inl ⟨rfl, by simp [Exchange.closePort]⟩
  | tell message aside => exact .inl ⟨rfl, Exchange.tell_orchestrator _⟩
  | send port command request isOpen accepted =>
    obtain ⟨_, _, orchestrator, _⟩ :=
      Exchange.send_accepted (Exchange.has_of_isOpen isOpen) accepted
    exact .inl ⟨by simp [turns, turnsOf], orchestrator⟩
  | refuse port command isOpen refused =>
    obtain ⟨_, same⟩ := Exchange.send_refused refused
    exact .inl ⟨by simp [turns, turnsOf], by simp [same]⟩
  | fetch caller result waits fetched =>
    exact .inl ⟨by simp [turns, turnsOf], (Exchange.fetch_within _).orchestrator⟩
  | giveUp caller waits late nothing =>
    exact .inl ⟨by simp [turns, turnsOf], (Exchange.giveUp_within _).orchestrator⟩
  | abandon caller => exact .inl ⟨rfl, rfl⟩
  | sort port isOpen => exact .inl ⟨rfl, Exchange.sortNext_within.orchestrator⟩
  | hangUp port isOpen sorted cut =>
    exact .inl ⟨by simp [turns, turnsOf], Exchange.hangUp_within.orchestrator⟩
  | drain port isOpen =>
    exact .inl ⟨by simp [turns, turnsOf], Exchange.drainNotes_within.orchestrator⟩
  | link move => exact .inl ⟨rfl, (Exchange.moveLink_links move).orchestrator⟩
  | turn intake input offered expected =>
    refine .inr ⟨input, ?_, Exchange.takeIn_turned offered expected⟩
    simp [turns, turnsOf]

/-- The turns in the log are a run of the orchestrator. -/
theorem Reaches.run (reached : Reaches config started s) :
    Orchestrator.Run config started s.turns s.exchange.orchestrator := by
  induction reached with
  | start => exact .start
  | step reached step induction =>
    rcases step.turned with ⟨turns, orchestrator⟩ | ⟨input, turns, turned⟩
    · rw [turns, orchestrator]
      exact induction
    · rw [turns, turned.orchestrator]
      exact .turn _ _ induction turned.expected

/-! ## The stream of messages is orderly -/

/-- As time goes by, ports are added, their numbering advances, and none opens again. -/
structure Ages (before after : Exchange) : Prop where
  has : ∀ port, before.Has port → after.Has port
  lastRequest : ∀ port, before.Has port →
    (before.port port).lastRequest ≤ (after.port port).lastRequest
  closed : ∀ port, before.Has port → (before.port port).isOpen = false →
    (after.port port).isOpen = false

theorem Ages.alike {x y : Exchange} (alike : x.Alike y) : Ages x y where
  has := fun port known => ⟨known.1, by rw [alike.count]; exact known.2⟩
  lastRequest := fun port _ => Nat.le_of_eq (alike.lastRequest port).symm
  closed := fun port _ shut => (alike.isOpen port).trans shut

/-- Only one port has changed. -/
theorem Ages.one {x y : Exchange} (id : PortId) (count : y.ports.length = x.ports.length)
    (others : ∀ other, other ≠ id → y.port other = x.port other)
    (lastRequest : (x.port id).lastRequest ≤ (y.port id).lastRequest)
    (closed : (x.port id).isOpen = false → (y.port id).isOpen = false) : Ages x y where
  has := fun port known => ⟨known.1, by rw [count]; exact known.2⟩
  lastRequest := by
    intro port _
    by_cases own : port = id
    · rw [own]
      exact lastRequest
    · exact Nat.le_of_eq (congrArg Port.lastRequest (others port own).symm)
  closed := by
    intro port _ shut
    by_cases own : port = id
    · rw [own] at shut ⊢
      exact closed shut
    · rw [others port own]
      exact shut

theorem Ages.turned {x y : Exchange} {turn : Turn} (turned : x.Turned y turn) : Ages x y where
  has := fun port known => ⟨known.1, by rw [turned.count]; exact known.2⟩
  lastRequest := by
    intro port _
    rw [turned.port]
    unfold Port.receive
    split <;> exact Nat.le_refl _
  closed := by
    intro port _ shut
    rw [turned.port]
    unfold Port.receive
    rw [if_neg (by simp [shut])]
    exact shut

theorem openPort_ages {x : Exchange} : Ages x x.openPort.1 := by
  have same : ∀ port, x.Has port → x.openPort.1.port port = x.port port := fun port known =>
    Exchange.openPort_port_old (Nat.ne_of_lt (Nat.lt_succ_of_le known.2))
  refine ⟨?_, ?_, ?_⟩
  · intro port known
    refine ⟨known.1, ?_⟩
    rw [Exchange.openPort_ports, List.length_append]
    exact Nat.le_add_right_of_le known.2
  · intro port known
    exact Nat.le_of_eq (congrArg Port.lastRequest (same port known).symm)
  · intro port known shut
    rw [same port known]
    exact shut

theorem closePort_ages {x : Exchange} {port : PortId} (known : x.Has port) :
    Ages x (x.closePort port) := by
  refine .one port (by simp [Exchange.closePort]) ?_ ?_ ?_
  · intro other different
    exact Exchange.closePort_port_of_ne different
  · exact Nat.le_of_eq (by rw [Exchange.closePort_port_self known])
  · rw [Exchange.closePort_port_self known]
    exact fun _ => rfl

theorem send_ages {x : Exchange} {port : PortId} {command : Command} {request : RequestId}
    (known : x.Has port) (accepted : (x.send port command).2 = some request) :
    Ages x (x.send port command).1 := by
  obtain ⟨_, next, _, _, count, others, self⟩ := Exchange.send_accepted known accepted
  refine .one port count others ?_ ?_ <;> rw [self]
  · rw [next]
    exact Nat.le_succ _
  · exact fun shut => shut

/-- What some messages say fits the ports they come from. -/
structure Spoken (messages : List Message) (x : Exchange) : Prop where
  orderly : Orderly messages
  has : ∀ message ∈ messages, ∀ port, message.port? = some port → x.Has port
  numbered : ∀ port request command, .request port request command ∈ messages →
    request ≤ (x.port port).lastRequest
  closed : ∀ port, .closePort port ∈ messages → (x.port port).isOpen = false

namespace Spoken

variable {messages : List Message} {x y : Exchange}

theorem ages (spoken : Spoken messages x) (ages : Ages x y) : Spoken messages y where
  orderly := spoken.orderly
  has := fun message member port about => ages.has port (spoken.has message member port about)
  numbered := fun port request command member =>
    Nat.le_trans (spoken.numbered port request command member)
      (ages.lastRequest port (spoken.has _ member port rfl))
  closed := fun port member =>
    ages.closed port (spoken.has _ member port rfl) (spoken.closed port member)

theorem prior {later : List Message} (spoken : Spoken (messages ++ later) x) :
    Spoken messages x where
  orderly := spoken.orderly.prior
  has := fun message member => spoken.has message (List.mem_append_left _ member)
  numbered := fun port request command member =>
    spoken.numbered port request command (List.mem_append_left _ member)
  closed := fun port member => spoken.closed port (List.mem_append_left _ member)

theorem snoc (spoken : Spoken messages x) {message : Message}
    (follows : ∀ earlier ∈ messages, earlier.MayPrecede message)
    (announced : ∀ port, message.port? = some port → message ≠ .openPort port →
      .openPort port ∈ messages)
    (has : ∀ port, message.port? = some port → x.Has port)
    (numbered : ∀ port request command, message = .request port request command →
      request ≤ (x.port port).lastRequest)
    (closed : ∀ port, message = .closePort port → (x.port port).isOpen = false) :
    Spoken (messages ++ [message]) x where
  orderly := spoken.orderly.snoc follows announced
  has := by
    intro other member port about
    rcases List.mem_append.mp member with before | last
    · exact spoken.has other before port about
    · exact has port (List.mem_singleton.mp last ▸ about)
  numbered := by
    intro port request command member
    rcases List.mem_append.mp member with before | last
    · exact spoken.numbered port request command before
    · exact numbered port request command (List.mem_singleton.mp last).symm
  closed := by
    intro port member
    rcases List.mem_append.mp member with before | last
    · exact spoken.closed port before
    · exact closed port (List.mem_singleton.mp last).symm

/-- A port is announced under a number that has not been spoken of. -/
theorem openPort (spoken : Spoken messages x) :
    Spoken (messages ++ [.openPort (x.ports.length + 1)]) x.openPort.1 := by
  have fresh : ¬ x.Has (x.ports.length + 1) := fun known =>
    absurd known.2 (Nat.not_succ_le_self _)
  have own : ∀ port, (Message.openPort (x.ports.length + 1)).port? = some port →
      port = x.ports.length + 1 := by
    intro port about
    simpa [Message.port?] using about.symm
  refine (spoken.ages openPort_ages).snoc ?_ ?_ ?_ (by simp) (by simp)
  · intro earlier member
    refine ⟨?_, ?_, by simp⟩
    · rintro port ⟨⟩ about
      exact fresh (spoken.has earlier member _ about)
    · rintro port rfl about
      exact fresh (own port about ▸ spoken.has _ member port rfl)
  · intro port about other
    exact absurd (by rw [own port about]) other
  · intro port about
    rw [own port about]
    exact ⟨Nat.succ_pos _, by simp [Exchange.openPort_ports]⟩

/-- An open port is closed. -/
theorem closePort (spoken : Spoken messages x) {port : PortId}
    (isOpen : (x.port port).isOpen = true) (announced : .openPort port ∈ messages) :
    Spoken (messages ++ [.closePort port]) (x.closePort port) := by
  have known := Exchange.has_of_isOpen isOpen
  have shut : ((x.closePort port).port port).isOpen = false := by
    rw [Exchange.closePort_port_self known]
  have own : ∀ other, (Message.closePort port).port? = some other → other = port := by
    intro other about
    simpa [Message.port?] using about.symm
  refine (spoken.ages (closePort_ages known)).snoc ?_ ?_ ?_ (by simp) ?_
  · intro earlier member
    refine ⟨by simp, ?_, by simp⟩
    rintro other rfl about
    have before := spoken.closed other member
    rw [own other about, isOpen] at before
    cases before
  · intro other about _
    rw [own other about]
    exact announced
  · intro other about
    rw [own other about]
    exact (closePort_ages known).has port known
  · rintro other ⟨⟩
    exact shut

/-- An open port makes its next request. -/
theorem send (spoken : Spoken messages x) {port : PortId} {command : Command}
    {request : RequestId} (isOpen : (x.port port).isOpen = true)
    (announced : .openPort port ∈ messages)
    (accepted : (x.send port command).2 = some request) :
    Spoken (messages ++ [.request port request command]) (x.send port command).1 := by
  have known := Exchange.has_of_isOpen isOpen
  obtain ⟨_, next, _, _, _, _, self⟩ := Exchange.send_accepted known accepted
  have own : ∀ other, (Message.request port request command).port? = some other →
      other = port := by
    intro other about
    simpa [Message.port?] using about.symm
  refine (spoken.ages (send_ages known accepted)).snoc ?_ ?_ ?_ ?_ (by simp)
  · intro earlier member
    refine ⟨by simp, ?_, ?_⟩
    · rintro other rfl about
      have before := spoken.closed other member
      rw [own other about, isOpen] at before
      cases before
    · rintro other first second early late rfl ⟨⟩
      rw [next]
      exact Nat.lt_succ_of_le (spoken.numbered port first early member)
  · intro other about _
    rw [own other about]
    exact announced
  · intro other about
    rw [own other about]
    exact (send_ages known accepted).has port known
  · rintro other id late ⟨⟩
    exact Nat.le_of_eq (by rw [self])

/-- A message that is not about a port. -/
theorem aside (spoken : Spoken messages x) {message : Message} (aside : message.port? = none) :
    Spoken (messages ++ [message]) x := by
  cases message <;> simp [Message.port?] at aside
  · refine spoken.snoc ?_ (by simp [Message.port?]) (by simp [Message.port?]) (by simp) (by simp)
    intro earlier member
    exact ⟨by simp, by simp [Message.port?], by simp⟩
  · refine spoken.snoc ?_ (by simp [Message.port?]) (by simp [Message.port?]) (by simp) (by simp)
    intro earlier member
    exact ⟨by simp, by simp [Message.port?], by simp⟩

end Spoken

/-- The messages of the ports are in order, and the ports know how the orchestrator stands. -/
structure Streamed (s : Traffic) : Prop where
  spoken : Spoken s.stream s.exchange
  announced : s.exchange.isRunning = true → ∀ port, s.exchange.Has port →
    .openPort port ∈ s.stream
  connected : ∀ port, s.exchange.Has port →
    (s.exchange.port port).isConnected = s.exchange.isRunning
  ended : s.exchange.isRunning = false → s.exchange.inbox = []

namespace Streamed

theorem start (config : RelayConfig) (started : Nat) : Streamed (.start config started) := by
  have none : ∀ port, ¬ (Exchange.start config started).Has port := by
    intro port known
    have bound : port ≤ 0 := known.2
    exact absurd known.1 (Nat.not_lt.mpr bound)
  have silent : (Traffic.start config started).stream = [] := rfl
  refine ⟨?_, fun _ port known => absurd known (none port),
    fun port known => absurd known (none port), fun _ => rfl⟩
  rw [silent]
  exact ⟨⟨.nil, by simp⟩, by simp, by simp, by simp⟩

/-- The ports stay as they are to the orchestrator, and may say something. -/
theorem speak (streamed : Streamed s) (said : List Message) (turns : after.turns = s.turns)
    (orchestrator : after.exchange.orchestrator = s.exchange.orchestrator)
    (inbox : after.exchange.inbox =
      s.exchange.inbox ++ if s.exchange.isRunning then said else [])
    (count : after.exchange.ports.length = s.exchange.ports.length)
    (isConnected : ∀ port,
      (after.exchange.port port).isConnected = (s.exchange.port port).isConnected)
    (aged : Ages s.exchange after.exchange)
    (spoken : s.exchange.isRunning = true → Spoken (s.stream ++ said) after.exchange) :
    Streamed after := by
  have stream : after.stream = s.stream ++ if s.exchange.isRunning then said else [] := by
    unfold Traffic.stream
    rw [turns, inbox, List.append_assoc]
  have running : after.exchange.isRunning = s.exchange.isRunning := by
    unfold Exchange.isRunning
    rw [orchestrator]
  refine ⟨?_, ?_, ?_, ?_⟩
  · rw [stream]
    split
    · rename_i goesOn
      exact spoken goesOn
    · rw [List.append_nil]
      exact streamed.spoken.ages aged
  · rw [stream, running]
    intro goesOn port known
    exact List.mem_append_left _ (streamed.announced goesOn port ⟨known.1, count ▸ known.2⟩)
  · rw [running]
    intro port known
    rw [isConnected]
    exact streamed.connected port ⟨known.1, count ▸ known.2⟩
  · rw [running, inbox]
    intro stopped
    rw [streamed.ended stopped, stopped]
    rfl

/-- Mailboxes and links do not matter. -/
theorem alike (streamed : Streamed s) (turns : after.turns = s.turns)
    (alike : s.exchange.Alike after.exchange) : Streamed after := by
  refine streamed.speak [] turns alike.orchestrator ?_ alike.count alike.isConnected
    (.alike alike) ?_
  · rw [alike.inbox, ite_self, List.append_nil]
  · intro _
    rw [List.append_nil]
    exact streamed.spoken.ages (.alike alike)

theorem openPort (streamed : Streamed s) (turns : after.turns = s.turns)
    (opens : after.exchange = s.exchange.openPort.1) : Streamed after := by
  have running : after.exchange.isRunning = s.exchange.isRunning := by
    unfold Exchange.isRunning
    rw [opens, Exchange.openPort_orchestrator]
  have stream : after.stream = s.stream ++
      if s.exchange.isRunning then [.openPort (s.exchange.ports.length + 1)] else [] := by
    unfold Traffic.stream
    rw [turns, opens, Exchange.openPort_inbox, List.append_assoc]
  have cases : ∀ port, after.exchange.Has port →
      s.exchange.Has port ∨ port = s.exchange.ports.length + 1 := by
    intro port known
    have bound : port ≤ s.exchange.ports.length + 1 := by
      simpa [opens, Exchange.openPort_ports] using known.2
    rcases Nat.lt_or_eq_of_le bound with less | same
    · exact .inl ⟨known.1, Nat.le_of_lt_succ less⟩
    · exact .inr same
  refine ⟨?_, ?_, ?_, ?_⟩
  · rw [stream, opens]
    split
    · exact streamed.spoken.openPort
    · rw [List.append_nil]
      exact streamed.spoken.ages openPort_ages
  · rw [stream, running]
    intro goesOn port known
    rw [if_pos goesOn]
    rcases cases port known with before | rfl
    · exact List.mem_append_left _ (streamed.announced goesOn port before)
    · exact List.mem_append_right _ (List.mem_singleton.mpr rfl)
  · rw [running, opens]
    intro port known
    rcases cases port (opens ▸ known) with before | rfl
    · rw [Exchange.openPort_port_old (Nat.ne_of_lt (Nat.lt_succ_of_le before.2))]
      exact streamed.connected port before
    · rw [Exchange.openPort_port_new]
      rfl
  · rw [running, opens, Exchange.openPort_inbox]
    intro stopped
    rw [streamed.ended stopped, stopped]
    rfl

theorem closePort (streamed : Streamed s) {port : PortId} (turns : after.turns = s.turns)
    (isOpen : (s.exchange.port port).isOpen = true)
    (closes : after.exchange = s.exchange.closePort port) : Streamed after := by
  have known := Exchange.has_of_isOpen isOpen
  refine streamed.speak [.closePort port] turns ?_ ?_ ?_ ?_ ?_ ?_ <;> rw [closes]
  · simp [Exchange.closePort]
  · simp [Exchange.closePort, Exchange.tell_inbox, Exchange.isRunning]
  · simp [Exchange.closePort]
  · intro other
    by_cases own : other = port
    · rw [own, Exchange.closePort_port_self known]
    · rw [Exchange.closePort_port_of_ne own]
  · exact closePort_ages known
  · intro goesOn
    exact streamed.spoken.closePort isOpen (streamed.announced goesOn port known)

theorem tell (streamed : Streamed s) {message : Message} (turns : after.turns = s.turns)
    (aside : message.port? = none) (tells : after.exchange = s.exchange.tell message) :
    Streamed after := by
  have same : Ages s.exchange (s.exchange.tell message) := by
    refine .one 0 (by simp) ?_ ?_ ?_ <;> simp
  refine streamed.speak [message] turns ?_ ?_ ?_ ?_ ?_ ?_ <;> rw [tells]
  · exact Exchange.tell_orchestrator message
  · exact Exchange.tell_inbox message
  · rw [Exchange.tell_ports]
  · intro port
    rw [Exchange.tell_port]
  · exact same
  · intro _
    exact (streamed.spoken.aside aside).ages same

theorem send (streamed : Streamed s) {port : PortId} {command : Command} {request : RequestId}
    (turns : after.turns = s.turns) (isOpen : (s.exchange.port port).isOpen = true)
    (accepted : (s.exchange.send port command).2 = some request)
    (sends : after.exchange = (s.exchange.send port command).1) : Streamed after := by
  have known := Exchange.has_of_isOpen isOpen
  obtain ⟨goesOn, _, orchestrator, inbox, count, others, self⟩ :=
    Exchange.send_accepted known accepted
  have spoken := streamed.spoken.send isOpen (streamed.announced goesOn port known) accepted
  refine streamed.speak [.request port request command] turns ?_ ?_ ?_ ?_ ?_ ?_ <;> rw [sends]
  · exact orchestrator
  · rw [inbox, if_pos goesOn]
  · exact count
  · intro other
    by_cases own : other = port
    · rw [own, self]
    · rw [others other own]
  · exact send_ages known accepted
  · exact fun _ => spoken

theorem refuse (streamed : Streamed s) {port : PortId} {command : Command}
    (turns : after.turns = s.turns) (isOpen : (s.exchange.port port).isOpen = true)
    (refused : (s.exchange.send port command).2 = none)
    (sends : after.exchange = (s.exchange.send port command).1) : Streamed after := by
  have known := Exchange.has_of_isOpen isOpen
  obtain ⟨stopped, same⟩ := Exchange.send_refused refused
  rw [same] at sends
  refine streamed.speak [] turns ?_ ?_ ?_ ?_ ?_ ?_ <;> rw [sends]
  · simp
  · simp
  · simp
  · intro other
    by_cases own : other = port
    · rw [own, Exchange.port_updatePort_self known]
    · rw [Exchange.port_updatePort_of_ne own]
  · refine .one port (by simp) (fun _ apart => Exchange.port_updatePort_of_ne apart _) ?_ ?_ <;>
      rw [Exchange.port_updatePort_self known]
    · exact Nat.le_succ _
    · exact id
  · intro goesOn
    rw [stopped] at goesOn
    cases goesOn

/-- A turn moves a message from the inbox to the turns; the last one throws the rest away. -/
theorem turn (streamed : Streamed s) {input : Input}
    (turns : after.turns = s.turns ++ [s.exchange.turn s.now input])
    (turned : s.exchange.Turned after.exchange (s.exchange.turn s.now input)) :
    Streamed after := by
  obtain ⟨left, before, rest⟩ := turned.inbox
  have stream : s.stream = taken after.turns ++ left := by
    unfold Traffic.stream
    rw [turns, taken_append, before, List.append_assoc]
  have was : s.exchange.isRunning = true := by
    by_contra stopped
    have ended : s.exchange.orchestrator.activity = .stopped := by
      simpa [Exchange.isRunning] using stopped
    exact Orchestrator.not_expects_of_stopped ended input turned.expected
  have spoken : Spoken (taken after.turns ++ left) after.exchange := by
    rw [← stream]
    exact streamed.spoken.ages (.turned turned)
  refine ⟨?_, ?_, ?_, ?_⟩
  · unfold Traffic.stream
    rw [rest]
    split
    · exact spoken
    · rw [List.append_nil]
      exact spoken.prior
  · intro goesOn port known
    unfold Traffic.stream
    rw [rest, if_pos goesOn, ← stream]
    exact streamed.announced was port ⟨known.1, turned.count ▸ known.2⟩
  · intro port known
    rw [turned.port, streamed.connected port ⟨known.1, turned.count ▸ known.2⟩, was, Bool.true_and]
  · intro stopped
    rw [rest, stopped]
    rfl

theorem step (streamed : Streamed s) (step : Step config s after) : Streamed after := by
  have same : ∀ {log : List Event} {event : Event}, turnsOf [event] = [] →
      turnsOf (log ++ [event]) = turnsOf log := by
    intro log event none
    rw [turnsOf_append, none, List.append_nil]
  cases step with
  | wait time => exact streamed.alike rfl (Exchange.LinksOnly.refl _).alike
  | openPort => exact streamed.openPort (same rfl) rfl
  | closePort port isOpen unused => exact streamed.closePort rfl isOpen rfl
  | tell message aside => exact streamed.tell rfl aside rfl
  | send port command request isOpen accepted =>
    exact streamed.send (same rfl) isOpen accepted rfl
  | refuse port command isOpen refused => exact streamed.refuse (same rfl) isOpen refused rfl
  | fetch caller result waits fetched =>
    exact streamed.alike (same rfl) (Exchange.fetch_within _).alike
  | giveUp caller waits late nothing =>
    exact streamed.alike (same rfl) (Exchange.giveUp_within _).alike
  | abandon caller => exact streamed.alike rfl (Exchange.LinksOnly.refl _).alike
  | sort port isOpen => exact streamed.alike rfl Exchange.sortNext_within.alike
  | hangUp port isOpen sorted cut => exact streamed.alike (same rfl) Exchange.hangUp_within.alike
  | drain port isOpen => exact streamed.alike (same rfl) Exchange.drainNotes_within.alike
  | link move => exact streamed.alike rfl (Exchange.moveLink_links move).alike
  | turn intake input offered expected =>
    exact streamed.turn (turnsOf_append _ _) (Exchange.takeIn_turned offered expected)

end Streamed

theorem Reaches.streamed (reached : Reaches config started s) : Streamed s := by
  induction reached with
  | start => exact .start config started
  | step reached step induction => exact induction.step step

end Traffic

end BrowserScript.Relay

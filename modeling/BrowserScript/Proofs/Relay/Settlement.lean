import BrowserScript.Proofs.Relay.Delivery

/-!
# Settlement

Every request the orchestrator takes is answered once. It is in flight or answered, never both and
never neither; it is given up only for the reasons there are; and when the orchestrator ends, what
is left unanswered is closed, unless a caller's own patience ends first.
-/

set_option autoImplicit false

namespace BrowserScript.Relay.Traffic

variable {config : RelayConfig} {started : Nat} {s after : Traffic}

/-- The end has been taken in, and the request had not been answered by then. -/
def LeftOver (turns : List Turn) (key : RequestKey) : Prop :=
  ∃ past last, turns = past ++ [last] ∧ last.input = .message .shutdown ∧ key ∉ answers past

/-- How requests are settled. -/
structure Settled (config : RelayConfig) (started : Nat) (s : Traffic) : Prop where
  /-- While no input is being handled, a request taken from a port that is still open has one entry
  and no answer, or no entry and one answer. -/
  once : s.exchange.orchestrator.activity = .idle ∨ s.exchange.orchestrator.activity = .stopped →
    ∀ port request command, .request port request command ∈ taken s.turns →
      (s.exchange.port port).isOpen = true →
        let entries := (s.exchange.orchestrator.pending.map Pending.key).count (port, request)
        let answers := (answers s.turns).count (port, request)
        (entries = 1 ∧ answers = 0) ∨ (entries = 0 ∧ answers = 1)
  /-- Closing a port takes out the entries of that port. -/
  closing : ∀ turn ∈ s.turns, ∀ port, turn.input = .message (.closePort port) → ∀ entry,
    entry ∈ turn.after.pending ↔ entry ∈ turn.before.pending ∧ entry.port ≠ port
  /-- A time-out comes from a lost link, or from a sweep once the time limit has passed. -/
  timeouts : ∀ earlier turn later, s.turns = earlier ++ turn :: later → ∀ port request,
    .toPort port (.response request (.error .timeout)) ∈ turn.sent →
      turn.LosesLink ∨ turn.input = .sweep ∧
        ∃ forwarding ∈ earlier, ∃ entry ∈ forwarding.assigned,
          entry.key = (port, request) ∧ forwarding.now + config.timeout ≤ turn.now
  /-- A sweep leaves nothing for which the time limit has passed. -/
  sweeps : ∀ earlier turn later, s.turns = earlier ++ turn :: later → turn.input = .sweep →
    ∀ entry ∈ turn.after.pending, ∃ forwarding ∈ earlier, entry ∈ forwarding.assigned ∧
      turn.now < forwarding.now + config.timeout
  /-- A send left over at the end returns that the relay is closed. Only before its port has hung
  up can its own time limit come first. -/
  leftOver : ∀ earlier now port request result later,
    s.log = earlier ++ .returned now port request result :: later →
    LeftOver (turnsOf earlier) (port, request) →
      result = .error .closed ∨
        result = .error .timeout ∧ .hungUp port ∉ earlier ∧
          ∃ made command, .called made port request command ∈ earlier ∧
            made + config.backstop ≤ now
  /-- When a port has hung up, every send on it has its answer to fetch, and one left over at the
  end is told that the relay is closed. -/
  hungUp : ∀ port, .hungUp port ∈ s.log → ∀ caller ∈ s.callers, caller.port = port →
    ∃ result, (s.exchange.fetch port caller.request).2 = some result ∧
      (LeftOver s.turns caller.key → result = .error .closed)
  /-- After the end, one round of its dispatcher is enough for a port to hang up. -/
  ends : s.exchange.isRunning = false → ∀ port, (s.exchange.port port).isOpen = true →
    Reaches config started
      { s with exchange := s.exchange.dispatch port, log := s.log ++ [.hungUp port] }
  /-- Nobody takes a request after the end. -/
  refused : s.exchange.isRunning = false → ∀ port command, (s.exchange.send port command).2 = none
  /-- Nobody waits for a request whose send has returned. -/
  returned : ∀ now port request result, .returned now port request result ∈ s.log →
    request ∉ (s.exchange.port port).waiters

/-- A request that has been asked and answers or entries that add up to one. -/
theorem Reaches.once (reached : Reaches config started s)
    (settled : s.exchange.orchestrator.activity = .idle ∨
      s.exchange.orchestrator.activity = .stopped)
    {port : PortId} {request : RequestId} {command : Command}
    (asked : .request port request command ∈ taken s.turns)
    (isOpen : (s.exchange.port port).isOpen = true) :
    (s.exchange.orchestrator.pending.map Pending.key).count (port, request) +
      (answers s.turns).count (port, request) = 1 := by
  have spoken := reached.streamed.spoken.prior
  have stays : .closePort port ∉ taken s.turns := by
    intro closed
    rw [spoken.closed port closed] at isOpen
    cases isOpen
  have account := reached.run.account spoken.orderly (port, request) stays
  have once : (Relay.asked s.turns).count (port, request) = 1 := by
    refine List.count_eq_one_of_mem spoken.orderly.asked_distinct ?_
    exact List.mem_filterMap.mpr ⟨_, asked, rfl⟩
  have free : s.exchange.orchestrator.waiting = [] := by
    unfold Orchestrator.waiting
    rcases settled with idle | stopped
    · rw [idle]
    · rw [stopped]
  rw [once, Orchestrator.count_held, free, List.map_nil, List.count_nil, Nat.add_zero] at account
  exact account

/-- What a left-over request gets from its port is that the relay is closed. -/
theorem Reaches.left_over_answer (reached : Reaches config started s) {port : PortId}
    {request : RequestId} {result : Except RelayError Reply}
    (left : LeftOver s.turns (port, request))
    (answer : (request, result) ∈ (s.exchange.port port).answers) : result = .error .closed := by
  rcases reached.traced.answers port request result answer with ⟨turn, member, sent⟩ | ⟨same, _⟩
  · obtain ⟨past, last, split, stops, unanswered⟩ := left
    rw [split] at member
    rcases List.mem_append.mp member with before | isLast
    · refine absurd ?_ unanswered
      refine List.mem_flatMap.mpr ⟨turn, before, ?_⟩
      exact List.mem_filterMap.mpr ⟨_, sent, rfl⟩
    · obtain rfl := List.mem_singleton.mp isLast
      have outcome := turn.outcome (reached.run.expected (by rw [split]; simp))
      rw [stops] at outcome
      obtain ⟨id, same⟩ := outcome.shutdown_sent.2 port _ sent
      exact (PortMessage.response.inj same).2
  · exact same

theorem Reaches.sorted (reached : Reaches config started s) {port : PortId}
    (isOpen : (s.exchange.port port).isOpen = true) (count : Nat) :
    let sorted := Nat.repeat (fun x => x.sortNext port) count s.exchange
    Reaches config started { s with exchange := sorted } ∧
      Exchange.Within port s.exchange sorted ∧
      (sorted.port port).inbox = (s.exchange.port port).inbox.drop count := by
  induction count with
  | zero => exact ⟨reached, .refl port _, rfl⟩
  | succ count induction =>
    obtain ⟨past, within, left⟩ := induction
    refine ⟨past.step (.sort _ port (within.isOpen.trans isOpen)),
      within.trans Exchange.sortNext_within, ?_⟩
    rw [Nat.repeat, Exchange.sortNext_inbox, left, List.tail_drop]

/-- The dispatcher of a port sorts what has come and then hangs up. -/
theorem Reaches.dispatched (reached : Reaches config started s)
    (stopped : s.exchange.isRunning = false) {port : PortId}
    (isOpen : (s.exchange.port port).isOpen = true) :
    Reaches config started
      { s with exchange := s.exchange.dispatch port, log := s.log ++ [.hungUp port] } := by
  obtain ⟨past, within, left⟩ := reached.sorted isOpen (s.exchange.port port).inbox.length
  have cut := within.isConnected.trans
    ((reached.streamed.connected port (Exchange.has_of_isOpen isOpen)).trans stopped)
  have hangs : s.exchange.dispatch port =
      (Nat.repeat (fun x => x.sortNext port) (s.exchange.port port).inbox.length
        s.exchange).hangUp port := by
    unfold Exchange.dispatch
    dsimp only
    rw [if_neg (by simp [cut])]
  rw [hangs]
  rw [List.drop_length] at left
  exact past.step (.hangUp _ port (within.isOpen.trans isOpen) left cut)

/-- Requests are settled once and for the right reasons, whatever the order of events. -/
theorem Reaches.settled (reached : Reaches config started s) : Settled config started s where
  once := by
    intro settled port request command asked isOpen
    have sum := reached.once settled asked isOpen
    dsimp only
    omega
  closing := fun turn _ port closes entry => turn.closes_port closes entry
  timeouts := fun earlier turn later split port request answer =>
    reached.run.timed_out split answer
  sweeps := fun earlier turn later split sweeps entry left => reached.run.swept split sweeps left
  leftOver := by
    intro earlier now port request result later split left
    obtain ⟨before, next, past, step, log, logs⟩ := reached.logged earlier later _ split
    rw [← log] at logs left ⊢
    obtain ⟨rfl, returns⟩ := step.returns logs
    cases returns with
    | refused stopped => exact .inl rfl
    | answered caller _ waits key held => exact .inl (past.left_over_answer left held)
    | late caller waits key due nothing =>
      obtain ⟨rfl, rfl⟩ := Prod.mk.inj key
      obtain ⟨made, command, called, deadline⟩ := past.kept.called caller waits
      refine .inr ⟨rfl, ?_, made, command, called, deadline ▸ due⟩
      intro hung
      obtain ⟨_, settled, _⟩ := past.kept.hungUp caller.port hung
      rcases past.kept.awaits caller waits with still | ⟨result, held⟩
      · rw [settled] at still
        cases still
      · exact nothing result held
  hungUp := by
    rintro port hung caller waits rfl
    obtain ⟨_, settled, _⟩ := reached.kept.hungUp caller.port hung
    cases fetched : (s.exchange.fetch caller.port caller.request).2 with
    | none =>
      rcases reached.kept.awaits caller waits with still | ⟨result, held⟩
      · rw [settled] at still
        cases still
      · exact absurd held (Exchange.fetch_none fetched result)
    | some result =>
      exact ⟨result, rfl, fun left =>
        reached.left_over_answer left (Exchange.fetch_move fetched).1⟩
  ends := fun stopped port isOpen => reached.dispatched stopped isOpen
  refused := by
    intro stopped port command
    exact Exchange.send_of_stopped stopped command
  returned := fun now port request result member =>
    (reached.kept.returned now port request result member).2

/-- A request is sent after the end has been asked for, and the end is taken in before it. -/
theorem settled_at_the_end :
    ∃ s, Reaches ⟨100, 10, 1, 5, Variables.empty⟩ 0 s ∧
      Settled ⟨100, 10, 1, 5, Variables.empty⟩ 0 s ∧
      LeftOver s.turns (1, 1) ∧ .returned 0 1 1 (.error .closed) ∈ s.log := by
  have opened := @Reaches.start ⟨100, 10, 1, 5, Variables.empty⟩ 0
    |>.step (.openPort _)
  have announced := opened.step (.turn _ .message _ (.message _ [] rfl) rfl)
  have asked := announced.step (.tell _ .shutdown rfl)
  have called := asked.step (.send _ 1 (.detach "T1") 1 rfl rfl)
  have stopped := called.step (.turn _ .message _ (.message _ _ rfl) rfl)
  have hungUp := stopped.step (.hangUp _ 1 rfl rfl rfl)
  have returned := hungUp.step (.fetch _ ⟨1, 1, 1110⟩ (.error .closed) (.head _) rfl)
  refine ⟨_, returned, returned.settled, ⟨[_], _, rfl, rfl, ?_⟩,
    List.mem_append_right _ (List.mem_singleton.mpr rfl)⟩
  exact List.not_mem_nil

/-- A send left over at the end always returns that the relay is closed. -/
def AlwaysClosed (s : Traffic) : Prop :=
  ∀ earlier now port request result later,
    s.log = earlier ++ .returned now port request result :: later →
    LeftOver (turnsOf earlier) (port, request) → result = .error .closed

/-- The time limit of a send can pass between the end and the hanging up of its port. -/
theorem not_always_closed :
    ¬ ∀ s, Reaches ⟨100, 10, 1, 5, Variables.empty⟩ 0 s → AlwaysClosed s := by
  intro always
  have opened := @Reaches.start ⟨100, 10, 1, 5, Variables.empty⟩ 0
    |>.step (.openPort _)
  have announced := opened.step (.turn _ .message _ (.message _ [] rfl) rfl)
  have asked := announced.step (.tell _ .shutdown rfl)
  have called := asked.step (.send _ 1 (.detach "T1") 1 rfl rfl)
  have waited := called.step (.wait _ 1110)
  have stopped := waited.step (.turn _ .message _ (.message _ _ rfl) rfl)
  have late := stopped.step (.giveUp _ ⟨1, 1, 1110⟩ (.head _) (by decide) rfl)
  have closed := always _ late _ 1110 1 1 (.error .timeout) [] rfl
    ⟨[_], _, rfl, rfl, List.not_mem_nil⟩
  cases closed

end BrowserScript.Relay.Traffic

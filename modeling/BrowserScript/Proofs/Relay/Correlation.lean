import BrowserScript.Proofs.Relay.Delivery

/-!
# Correlation

A relay id stands for one request for all time, and a reply or a progress event comes only to the
caller whose request its relay id stands for, however late, doubled or misdirected the messages of
the worker are.
-/

set_option autoImplicit false

namespace BrowserScript.Relay

theorem Port.Move.lastRequest {deed : Port.Deed} {port after : Port}
    (move : Port.Move deed port after) : port.lastRequest ≤ after.lastRequest := by
  cases move with
  | asked => exact Nat.le_succ _
  | refused => exact Nat.le_succ _
  | received _ messages isConnected =>
    unfold Port.receive
    split <;> exact Nat.le_refl _
  | _ => exact Nat.le_refl _

namespace Traffic

variable {config : RelayConfig} {started : Nat} {s after : Traffic}

/-! ## What the log says about ports and requests -/

/-- The ports that have been opened, in order. -/
def openings (log : List Event) : List PortId :=
  log.filterMap fun
    | .opened port => some port
    | _ => none

/-- The requests that have been made, in order. -/
def calls (log : List Event) : List RequestKey :=
  log.filterMap fun
    | .called _ port request _ => some (port, request)
    | _ => none

/-- The log knows every port and every request. -/
structure Recorded (s : Traffic) : Prop where
  openings : openings s.log = (List.range s.exchange.ports.length).map Nat.succ
  bounded : ∀ key ∈ calls s.log, key.2 ≤ (s.exchange.port key.1).lastRequest
  rising : (calls s.log).Pairwise fun earlier later => earlier.1 = later.1 → earlier.2 < later.2
  called : ∀ port request command, .request port request command ∈ s.stream →
    ∃ now, .called now port request command ∈ s.log

/-- The ports after a step: the same, or one more. -/
theorem Step.openings (step : Step config s after) :
    (Traffic.openings after.log = Traffic.openings s.log ∧
      after.exchange.ports.length = s.exchange.ports.length) ∨
    (Traffic.openings after.log = Traffic.openings s.log ++ [s.exchange.ports.length + 1] ∧
      after.exchange.ports.length = s.exchange.ports.length + 1) := by
  cases step with
  | wait time => exact .inl ⟨rfl, rfl⟩
  | openPort =>
    refine .inr ⟨?_, by simp [Exchange.openPort_ports]⟩
    simp [Traffic.openings, Exchange.openPort]
  | closePort port isOpen unused => exact .inl ⟨rfl, by simp [Exchange.closePort]⟩
  | tell message aside => exact .inl ⟨rfl, by simp⟩
  | send port command request isOpen accepted =>
    obtain ⟨_, _, _, _, count, _⟩ :=
      Exchange.send_accepted (Exchange.has_of_isOpen isOpen) accepted
    exact .inl ⟨by simp [Traffic.openings], count⟩
  | refuse port command isOpen refused =>
    obtain ⟨_, same⟩ := Exchange.send_refused refused
    exact .inl ⟨by simp [Traffic.openings], by simp [same]⟩
  | fetch caller result waits fetched =>
    exact .inl ⟨by simp [Traffic.openings], (Exchange.fetch_within _).count⟩
  | giveUp caller waits late nothing =>
    exact .inl ⟨by simp [Traffic.openings], (Exchange.giveUp_within _).count⟩
  | abandon caller => exact .inl ⟨rfl, rfl⟩
  | sort port isOpen => exact .inl ⟨rfl, Exchange.sortNext_within.count⟩
  | hangUp port isOpen sorted cut =>
    exact .inl ⟨by simp [Traffic.openings], Exchange.hangUp_within.count⟩
  | drain port isOpen => exact .inl ⟨by simp [Traffic.openings], Exchange.drainNotes_within.count⟩
  | link move => exact .inl ⟨rfl, by rw [(Exchange.moveLink_links move).ports]⟩
  | turn intake input offered expected =>
    exact .inl ⟨by simp [Traffic.openings], (Exchange.takeIn_turned offered expected).count⟩

/-- The requests after a step: the same, or the next one of some port. -/
theorem Step.calls (step : Step config s after) :
    Traffic.calls after.log = Traffic.calls s.log ∨
      ∃ port, Traffic.calls after.log =
          Traffic.calls s.log ++ [(port, (s.exchange.port port).lastRequest + 1)] ∧
        (after.exchange.port port).lastRequest = (s.exchange.port port).lastRequest + 1 := by
  cases step with
  | send port command request isOpen accepted =>
    obtain ⟨_, rfl, _, _, _, _, self⟩ :=
      Exchange.send_accepted (Exchange.has_of_isOpen isOpen) accepted
    exact .inr ⟨port, by simp [Traffic.calls], by rw [self]⟩
  | openPort => exact .inl (by simp [Traffic.calls])
  | refuse port command isOpen refused => exact .inl (by simp [Traffic.calls])
  | fetch caller result waits fetched => exact .inl (by simp [Traffic.calls])
  | giveUp caller waits late nothing => exact .inl (by simp [Traffic.calls])
  | hangUp port isOpen sorted cut => exact .inl (by simp [Traffic.calls])
  | drain port isOpen => exact .inl (by simp [Traffic.calls])
  | turn intake input offered expected => exact .inl (by simp [Traffic.calls])
  | _ => exact .inl rfl

/-- A request in the stream was there before, or has just been made. -/
theorem Step.request (step : Step config s after) {port : PortId} {request : RequestId}
    {command : Command} (member : .request port request command ∈ after.stream) :
    .request port request command ∈ s.stream ∨
      .called s.now port request command ∈ after.log := by
  have quiet : ∀ said, after.turns = s.turns → after.exchange.inbox = s.exchange.inbox ++ said →
      .request port request command ∉ said → .request port request command ∈ s.stream := by
    intro said turns inbox silent
    unfold stream at member ⊢
    rw [turns, inbox, ← List.append_assoc] at member
    exact (List.mem_append.mp member).resolve_right silent
  have unheard : after.turns = s.turns → after.exchange.inbox = s.exchange.inbox →
      .request port request command ∈ s.stream := by
    intro turns inbox
    unfold stream at member ⊢
    rwa [turns, inbox] at member
  have still : ∀ {event : Event}, turnsOf [event] = [] → after.log = s.log ++ [event] →
      after.turns = s.turns := by
    intro event none same
    unfold turns
    rw [same, turnsOf_append, none, List.append_nil]
  cases step with
  | wait time => exact .inl member
  | openPort =>
    exact .inl (quiet _ (still rfl rfl) Exchange.openPort_inbox (by split <;> simp))
  | closePort target isOpen unused =>
    refine .inl (quiet (if s.exchange.isRunning then [.closePort target] else []) rfl ?_ ?_)
    · simp [Exchange.closePort, Exchange.tell_inbox, Exchange.isRunning]
    · split <;> simp
  | tell message aside =>
    refine .inl (quiet _ rfl (Exchange.tell_inbox message) ?_)
    split
    · intro same
      rw [← List.mem_singleton.mp same] at aside
      cases aside
    · exact List.not_mem_nil
  | send target made id isOpen accepted =>
    obtain ⟨_, _, _, inbox, _⟩ :=
      Exchange.send_accepted (Exchange.has_of_isOpen isOpen) accepted
    by_cases same : Message.request port request command = .request target id made
    · obtain ⟨rfl, rfl, rfl⟩ := Message.request.inj same
      exact .inr (List.mem_append_right _ (List.mem_singleton.mpr rfl))
    · exact .inl (quiet _ (still rfl rfl) inbox (by simpa using same))
  | refuse target made isOpen refused =>
    obtain ⟨_, same⟩ := Exchange.send_refused refused
    exact .inl (unheard (still rfl rfl) (by simp [same]))
  | fetch caller result waits fetched =>
    exact .inl (unheard (still rfl rfl) (Exchange.fetch_within _).inbox)
  | giveUp caller waits late nothing =>
    exact .inl (unheard (still rfl rfl) (Exchange.giveUp_within _).inbox)
  | abandon caller => exact .inl member
  | sort target isOpen => exact .inl (unheard rfl Exchange.sortNext_within.inbox)
  | hangUp target isOpen sorted cut =>
    exact .inl (unheard (still rfl rfl) Exchange.hangUp_within.inbox)
  | drain target isOpen =>
    exact .inl (unheard (still rfl rfl) Exchange.drainNotes_within.inbox)
  | link move => exact .inl (unheard rfl (Exchange.moveLink_links move).inbox)
  | turn intake input offered expected =>
    obtain ⟨left, before, rest⟩ := (Exchange.takeIn_turned offered expected).inbox
    left
    unfold stream turns at member ⊢
    rw [turnsOf_append, show turnsOf [.turn (s.exchange.turn s.now input)] =
      [s.exchange.turn s.now input] from rfl, taken_append, rest, List.append_assoc] at member
    rw [before]
    split at member
    · exact member
    · rw [List.append_nil, List.mem_append] at member
      rw [List.mem_append, List.mem_append]
      exact member.imp id .inl

theorem Recorded.step (recorded : Recorded s) (step : Step config s after) : Recorded after where
  openings := by
    rcases step.openings with ⟨same, count⟩ | ⟨grows, count⟩
    · rw [same, count]
      exact recorded.openings
    · rw [grows, count, recorded.openings, List.range_succ, List.map_append]
      rfl
  bounded := by
    have older : ∀ key ∈ Traffic.calls s.log, key.2 ≤ (after.exchange.port key.1).lastRequest := by
      intro key member
      obtain ⟨deed, move, _⟩ := step.treats key.1
      exact Nat.le_trans (recorded.bounded key member) move.lastRequest
    rcases step.calls with same | ⟨port, grows, made⟩
    · rw [same]
      exact older
    · rw [grows]
      intro key member
      rcases List.mem_append.mp member with before | new
      · exact older key before
      · rw [List.mem_singleton.mp new]
        exact Nat.le_of_eq made.symm
  rising := by
    rcases step.calls with same | ⟨port, grows, made⟩
    · rw [same]
      exact recorded.rising
    · rw [grows, List.pairwise_append]
      refine ⟨recorded.rising, List.pairwise_singleton _ _, ?_⟩
      intro earlier member later new same
      rw [List.mem_singleton.mp new] at same ⊢
      have bound := recorded.bounded earlier member
      rw [same] at bound
      exact Nat.lt_succ_of_le bound
  called := by
    intro port request command member
    rcases step.request member with before | new
    · obtain ⟨now, logged⟩ := recorded.called port request command before
      exact ⟨now, step.logged logged⟩
    · exact ⟨s.now, new⟩

theorem Reaches.recorded (reached : Reaches config started s) : Recorded s := by
  induction reached with
  | start =>
    refine ⟨rfl, by simp [calls, Traffic.start], by simp [calls, Traffic.start], ?_⟩
    intro port request command member
    cases member
  | step reached step induction => exact induction.step step

/-! ## Correlation -/

/-- The orchestrator took in this message of the worker after it had given its relay id to exactly
this request. -/
def Carried (turns : List Turn) (key : RequestKey) (origin : LinkMessage) : Prop :=
  ∃ earlier turn later, turns = earlier ++ turn :: later ∧ turn.input = .fromWorker origin ∧
    ∃ entry ∈ assignments earlier, entry.relayId = origin.relayId ∧ entry.key = key

theorem Reaches.carried (reached : Reaches config started s) {port : PortId}
    {message : PortMessage} (sent : s.Sent port message) (fromWorker : message.IsFromWorker) :
    ∃ request origin, message = origin.addressed request ∧
      Carried s.turns (port, request) origin := by
  obtain ⟨turn, member, addressed⟩ := sent
  obtain ⟨earlier, later, split⟩ := List.append_of_mem member
  obtain ⟨origin, input, entry, assigned, number, target, form⟩ :=
    reached.run.passed_on split addressed fromWorker
  refine ⟨entry.request, origin, form, earlier, turn, later, split, input, entry, assigned,
    number, ?_⟩
  rw [Pending.key, target]

/-- Relay ids, port ids and request ids are never used twice, and what comes back from the worker
comes to the request that its relay id was given to. -/
structure Correlated (s : Traffic) : Prop where
  /-- The relay ids given out increase from turn to turn, whatever becomes of the links. -/
  relayIds : (assignments s.turns).Pairwise fun earlier later => earlier.relayId < later.relayId
  /-- No relay id is given to two requests. -/
  single : ∀ left ∈ assignments s.turns, ∀ right ∈ assignments s.turns,
    left.relayId = right.relayId → left.key = right.key
  portIds : (openings s.log).Pairwise (· < ·)
  requestIds : (calls s.log).Pairwise fun earlier later =>
    earlier.1 = later.1 → earlier.2 < later.2
  /-- A relay id is given to a request some send has made, and goes to the worker with the command
  of that request. -/
  assigned : ∀ earlier turn later, s.turns = earlier ++ turn :: later → ∀ entry ∈ turn.assigned,
    ∃ now command prepared link, .called now entry.port entry.request command ∈ s.log ∧
      turn.before.prepare command = .ok prepared ∧
      turn.sent = [.toWorker link ⟨entry.relayId, prepared⟩]
  /-- What the orchestrator passes on to a port under a request id. -/
  passedOn : ∀ earlier turn later, s.turns = earlier ++ turn :: later → ∀ port message,
    .toPort port message ∈ turn.sent → message.IsFromWorker →
      ∃ request origin, turn.input = .fromWorker origin ∧
        message = origin.addressed request ∧ Carried (earlier ++ [turn]) (port, request) origin
  /-- A reply that a send returns. -/
  replies : ∀ earlier now port request reply later,
    s.log = earlier ++ .returned now port request (.ok reply) :: later →
      (∃ made command, .called made port request command ∈ earlier) ∧
        ∃ relayId, Carried (turnsOf earlier) (port, request) (.response relayId reply)
  /-- A progress event that the caller of a port reads. -/
  notes : ∀ earlier port notes later, s.log = earlier ++ .read port notes :: later →
    ∀ note ∈ notes, ∃ relayId,
      Carried (turnsOf earlier) (port, note.request) (.progress relayId note.event)

/-- Nothing the worker sends reaches another request or another port than its relay id stands
for. -/
theorem Reaches.correlated (reached : Reaches config started s) : Correlated s where
  relayIds := reached.run.numbered.increasing
  single := by
    intro left leftGiven right rightGiven same
    rw [reached.run.numbered.unique leftGiven rightGiven same]
  portIds := by
    rw [reached.recorded.openings, List.pairwise_map]
    exact List.pairwise_lt_range.imp Nat.succ_lt_succ
  requestIds := reached.recorded.rising
  assigned := by
    intro earlier turn later split entry given
    obtain ⟨link, command, prepared, asked, ready, sent, _⟩ :=
      reached.run.assigned_origin split given
    have heard : .request entry.port entry.request command ∈ s.stream := by
      refine List.mem_append_left _ ?_
      rw [split, List.append_cons]
      unfold taken at asked ⊢
      rw [List.filterMap_append]
      exact List.mem_append_left _ asked
    obtain ⟨now, called⟩ := reached.recorded.called _ _ _ heard
    exact ⟨now, command, prepared, link, called, ready, sent⟩
  passedOn := by
    intro earlier turn later split port message addressed fromWorker
    obtain ⟨origin, input, entry, assigned, number, target, form⟩ :=
      reached.run.passed_on split addressed fromWorker
    refine ⟨entry.request, origin, input, form, earlier, turn, [], rfl, input, entry, assigned,
      number, ?_⟩
    rw [Pending.key, target]
  replies := by
    intro earlier now port request reply later split
    obtain ⟨before, next, past, step, log, logs⟩ := reached.logged earlier later _ split
    rw [← log] at logs ⊢
    obtain ⟨_, returns⟩ := step.returns logs
    cases returns with
    | answered caller _ waits key held =>
      obtain ⟨rfl, rfl⟩ := Prod.mk.inj key
      obtain ⟨made, command, called, _⟩ := past.kept.called caller waits
      refine ⟨⟨made, command, called⟩, ?_⟩
      rcases past.traced.answers _ _ _ held with sent | ⟨closed, _⟩
      · obtain ⟨id, origin, form, carried⟩ := past.carried sent trivial
        cases origin with
        | response relayId answer =>
          obtain ⟨rfl, same⟩ := PortMessage.response.inj form
          obtain rfl := Except.ok.inj same
          exact ⟨relayId, carried⟩
        | progress relayId event => cases form
      · cases closed
  notes := by
    intro earlier port notes later split note member
    obtain ⟨before, next, past, step, log, logs⟩ := reached.logged earlier later _ split
    rw [← log] at logs ⊢
    have held : note ∈ (before.exchange.port port).notes := by
      cases step with
      | drain target isOpen =>
        obtain ⟨rfl, rfl⟩ : target = port ∧ _ := by simpa using logs
        exact member
      | _ => simp at logs
    obtain ⟨id, origin, form, carried⟩ := past.carried (past.traced.notes port note held) trivial
    cases origin with
    | response relayId answer => cases form
    | progress relayId event =>
      obtain ⟨same, rfl⟩ := PortMessage.progress.inj form
      rw [same]
      exact ⟨relayId, carried⟩

/-- A request goes to the worker and its reply comes back. -/
theorem correlated_round_trip :
    ∃ s, Reaches ⟨100, 10, 1, 5, Variables.empty⟩ 0 s ∧ Correlated s ∧
      .returned 0 1 1 (.ok (.detached "T1")) ∈ s.log := by
  have opened := @Reaches.start ⟨100, 10, 1, 5, Variables.empty⟩ 0
    |>.step (.openPort _)
  have announced := opened.step (.turn _ .message _ (.message _ [] rfl) rfl)
  have called := announced.step (.send _ 1 (.detach "T1") 1 rfl rfl)
  have asked := called.step (.turn _ .message _ (.message _ [] rfl) rfl)
  have linked := asked.step (.link _ .openLink)
  have forwarded := linked.step
    (.turn _ (.connected (some 0)) _ (.linked 0 (by decide)) ⟨1, 1, _, rfl⟩)
  have answered := forwarded.step (.link _ (.answer 0 (.response 1 (.detached "T1"))))
  have passedOn := answered.step (.turn _ (.answer 0) _ (.answer 0 _ [] rfl rfl) ⟨rfl, rfl⟩)
  have sorted := passedOn.step (.sort _ 1 rfl)
  have returned := sorted.step (.fetch _ ⟨1, 1, 1110⟩ (.ok (.detached "T1")) (.head _) rfl)
  exact ⟨_, returned, returned.correlated, List.mem_append_right _ (List.mem_singleton.mpr rfl)⟩

end Traffic

end BrowserScript.Relay

import BrowserScript.Proofs.Relay.Account

/-!
# Why a request is given up

The orchestrator answers a request with an error for a few reasons only. A time-out comes from a
lost link or from a sweep that finds the request too old; that it is closed, only from the end of
the orchestrator.
-/

set_option autoImplicit false

namespace BrowserScript.Relay

/-- The turn finds out that the link is dead. -/
def Turn.LosesLink (turn : Turn) : Prop :=
  turn.input = .linkEnded ∨ ∃ link request,
    turn.before.Hands turn.input link request ∧ turn.isOpen link = false

namespace Orchestrator

variable {o after : Orchestrator} {now : Nat} {isOpen : LinkId → Bool} {input : Input}
  {sent : List Sending}

/-- The error answers of a turn, by their reason. -/
theorem Outcome.error_sent (outcome : o.Outcome now isOpen input after sent) {port : PortId}
    {request : RequestId} {error : RelayError}
    (answer : .toPort port (.response request (.error error)) ∈ sent) :
    (∃ text, error = .invalidCommand text) ∨ error = .disconnected ∨
      (error = .timeout ∧ (input = .linkEnded ∨ ∃ link request,
        o.Hands input link request ∧ isOpen link = false)) ∨
      (error = .timeout ∧ input = .sweep ∧
        ∃ entry ∈ o.pending, entry.key = (port, request) ∧ entry.timeoutAt ≤ now) ∨
      (error = .closed ∧ input = .message .shutdown) := by
  cases outcome with
  | refused target id command reason prepared =>
    obtain ⟨_, same⟩ := mem_respond answer
    obtain ⟨text, rfl⟩ := prepare_error prepared
    exact .inl ⟨text, by simpa using (PortMessage.response.inj same).2⟩
  | replied relayId reply entry found =>
    obtain ⟨_, same⟩ := mem_respond answer
    simp at same
  | progressed relayId event entry found =>
    split at answer <;> simp at answer
  | undeliverable _ link handed isHanded isDead =>
    simp only [List.mem_append, List.mem_singleton, reduceCtorEq, or_false] at answer
    rcases answer with own | others
    · obtain ⟨_, same⟩ := mem_respond own
      exact .inr (.inl (by simpa using (PortMessage.response.inj same).2))
    · obtain ⟨entry, _, _, same⟩ := mem_respondAll others
      exact .inr (.inr (.inl ⟨by simpa using (PortMessage.response.inj same).2,
        .inr ⟨link, handed, isHanded, isDead⟩⟩))
  | ended idle =>
    simp only [List.mem_append, List.mem_singleton, reduceCtorEq, or_false] at answer
    obtain ⟨entry, _, _, same⟩ := mem_respondAll answer
    exact .inr (.inr (.inl ⟨by simpa using (PortMessage.response.inj same).2, .inl rfl⟩))
  | swept next =>
    obtain ⟨entry, known, rfl, same⟩ := mem_respondAll answer
    obtain ⟨rfl, reason⟩ := PortMessage.response.inj same
    obtain ⟨held, old⟩ := List.mem_filter.mp known
    exact .inr (.inr (.inr (.inl
      ⟨by simpa using reason, rfl, entry, held, rfl, by simpa using old⟩)))
  | stopped idle =>
    obtain ⟨entry, _, _, same⟩ := mem_respondAll answer
    exact .inr (.inr (.inr (.inr ⟨by simpa using (PortMessage.response.inj same).2, rfl⟩)))
  | unreachable attempt attempts waiting asking =>
    obtain ⟨_, _, own⟩ := List.mem_flatMap.mp answer
    obtain ⟨_, same⟩ := mem_respond own
    exact .inr (.inl (by simpa using (PortMessage.response.inj same).2))
  | _ => simp at answer

/-- The end of the orchestrator is the end of its activity, and only closes requests. -/
theorem Outcome.shutdown_sent (outcome : o.Outcome now isOpen (.message .shutdown) after sent) :
    after.activity = .stopped ∧ ∀ port message, .toPort port message ∈ sent →
      ∃ request, message = .response request (.error .closed) := by
  cases outcome with
  | stopped idle =>
    refine ⟨rfl, ?_⟩
    intro port message member
    obtain ⟨entry, _, _, same⟩ := mem_respondAll member
    exact ⟨entry.request, same⟩
  | forwarded _ link request handed isLive => cases handed
  | undeliverable _ link request handed isDead => cases handed

theorem Outcome.stopped_iff (outcome : o.Outcome now isOpen input after sent)
    (expected : o.Expects input) : after.activity = .stopped ↔ input = .message .shutdown := by
  constructor
  · intro stopped
    have running : o.activity ≠ .stopped := by
      intro same
      exact not_expects_of_stopped same input expected
    cases outcome with
    | stopped idle => rfl
    | _ => first | exact absurd stopped running | simp [lost] at stopped
  · rintro rfl
    exact outcome.shutdown_sent.1

end Orchestrator

/-- Closing a port takes out exactly the entries of that port. -/
theorem Turn.closes_port {turn : Turn} {port : PortId}
    (closes : turn.input = .message (.closePort port))
    (entry : Pending) :
    entry ∈ turn.after.pending ↔ entry ∈ turn.before.pending ∧ entry.port ≠ port := by
  simp [Turn.after, Orchestrator.take, closes, Orchestrator.receive]

namespace Orchestrator.Run

variable {config : RelayConfig} {started : Nat} {turns : List Turn} {o : Orchestrator}

/-- Everything in flight got its entry, and with it its time limit, in one of the turns. -/
theorem in_flight (run : Run config started turns o) {entry : Pending} (held : entry ∈ o.pending) :
    ∃ turn ∈ turns, entry ∈ turn.assigned ∧ entry.timeoutAt = turn.now + config.timeout := by
  obtain ⟨turn, member, assigned⟩ := List.mem_flatMap.mp (run.numbered.inFlight.subset held)
  obtain ⟨earlier, later, split⟩ := List.append_of_mem member
  obtain ⟨_, _, _, _, _, _, limit⟩ := run.assigned_origin split assigned
  exact ⟨turn, member, assigned, limit⟩

/-- A time-out is answered only when the link is lost, or by a sweep at least the time limit after
the request was forwarded. -/
theorem timed_out (run : Run config started turns o) {earlier later : List Turn} {turn : Turn}
    (split : turns = earlier ++ turn :: later) {port : PortId} {request : RequestId}
    (answer : .toPort port (.response request (.error .timeout)) ∈ turn.sent) :
    turn.LosesLink ∨ turn.input = .sweep ∧ ∃ forwarding ∈ earlier, ∃ entry ∈ forwarding.assigned,
      entry.key = (port, request) ∧ forwarding.now + config.timeout ≤ turn.now := by
  obtain ⟨past, expected⟩ := run.before_turn earlier later turn split
  rcases (turn.outcome expected).error_sent answer with
    ⟨text, other⟩ | other | ⟨_, lost⟩ | ⟨_, swept, entry, held, same, old⟩ | ⟨other, _⟩
  · cases other
  · cases other
  · exact .inl lost
  · obtain ⟨forwarding, member, assigned, limit⟩ := past.in_flight held
    exact .inr ⟨swept, forwarding, member, entry, assigned, same, limit ▸ old⟩
  · cases other

/-- Right after a sweep, nothing is left that was forwarded as long ago as the time limit. -/
theorem swept (run : Run config started turns o) {earlier later : List Turn} {turn : Turn}
    (split : turns = earlier ++ turn :: later) (sweeps : turn.input = .sweep) {entry : Pending}
    (left : entry ∈ turn.after.pending) :
    ∃ forwarding ∈ earlier, entry ∈ forwarding.assigned ∧
      turn.now < forwarding.now + config.timeout := by
  obtain ⟨past, expected⟩ := run.before_turn earlier later turn split
  have kept : entry ∈ turn.before.pending ∧ turn.now < entry.timeoutAt := by
    simpa [Turn.after, take, sweeps, sweep, List.partition_eq_filter_filter] using left
  obtain ⟨forwarding, member, assigned, limit⟩ := past.in_flight kept.1
  exact ⟨forwarding, member, assigned, limit ▸ kept.2⟩

/-- The orchestrator has stopped when it has taken in that it should, and that was its last turn. -/
theorem stopped_iff (run : Run config started turns o) :
    o.activity = .stopped ↔ ∃ turn ∈ turns, turn.input = .message .shutdown := by
  induction run with
  | start => simp [Orchestrator.start]
  | turn turns turn run expected induction =>
    rw [(turn.outcome expected).stopped_iff expected]
    constructor
    · intro stops
      exact ⟨turn, by simp, stops⟩
    · rintro ⟨other, member, stops⟩
      rcases List.mem_append.mp member with before | last
      · have stopped := induction.mpr ⟨other, before, stops⟩
        exact absurd expected (not_expects_of_stopped stopped _)
      · rw [← List.mem_singleton.mp last]
        exact stops

end Orchestrator.Run

end BrowserScript.Relay

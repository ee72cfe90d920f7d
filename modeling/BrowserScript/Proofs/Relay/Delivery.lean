import BrowserScript.Proofs.Relay.Mailbox

/-!
# Callers and what they get

In every state of the relay: a send that has not returned waits or has its answer, one that has
returned waits no more, and whatever lies in the mailboxes of a port has been sent to that port in
some turn of the orchestrator, or says that all is over.
-/

set_option autoImplicit false

namespace BrowserScript.Relay.Traffic

variable {config : RelayConfig} {started : Nat} {s after : Traffic}

/-! ## Callers -/

/-- How the callers stand with their ports. -/
structure Kept (config : RelayConfig) (s : Traffic) : Prop where
  tidy : ∀ port, (s.exchange.port port).Tidy
  isOpen : ∀ caller ∈ s.callers, (s.exchange.port caller.port).isOpen = true
  awaits : ∀ caller ∈ s.callers, (s.exchange.port caller.port).Awaits caller.request
  called : ∀ caller ∈ s.callers, ∃ now command,
    .called now caller.port caller.request command ∈ s.log ∧
      caller.deadline = now + config.backstop
  returned : ∀ now port request result, .returned now port request result ∈ s.log →
    (s.exchange.port port).Past request
  hungUp : ∀ port, .hungUp port ∈ s.log → s.exchange.isRunning = false ∧
    (s.exchange.port port).waiters = [] ∧ (s.exchange.port port).inbox = []

theorem Step.logged (step : Step config s after) {event : Event} (member : event ∈ s.log) :
    event ∈ after.log := by
  rcases step.log with same | ⟨last, same⟩ <;> rw [same]
  · exact member
  · exact List.mem_append_left _ member

/-- Every caller was there before, or has just made a request that now waits. -/
theorem Step.caller (step : Step config s after) {caller : Caller}
    (member : caller ∈ after.callers) :
    caller ∈ s.callers ∨
      (after.exchange.port caller.port).isOpen = true ∧
        caller.request ∈ (after.exchange.port caller.port).waiters ∧
        ∃ command, .called s.now caller.port caller.request command ∈ after.log ∧
          caller.deadline = s.now + config.backstop := by
  cases step with
  | send port command request isOpen accepted =>
    rcases List.mem_append.mp member with before | new
    · exact .inl before
    · obtain rfl := List.mem_singleton.mp new
      obtain ⟨_, _, _, _, _, _, self⟩ :=
        Exchange.send_accepted (Exchange.has_of_isOpen isOpen) accepted
      rw [self]
      exact .inr ⟨isOpen, List.mem_append_right _ (List.mem_singleton.mpr rfl), command,
        List.mem_append_right _ (List.mem_singleton.mpr rfl), rfl⟩
  | fetch other result waits fetched => exact .inl (List.mem_filter.mp member).1
  | giveUp other waits late nothing => exact .inl (List.mem_filter.mp member).1
  | abandon other => exact .inl (List.mem_filter.mp member).1
  | _ => exact .inl member

/-- A send that returns in a step is past. -/
theorem Step.returned (step : Step config s after) (kept : Kept config s) {now : Nat}
    {port : PortId} {request : RequestId} {result : Except RelayError Reply}
    (member : .returned now port request result ∈ after.log) :
    .returned now port request result ∈ s.log ∨ (after.exchange.port port).Past request := by
  cases step with
  | refuse target command isOpen refused =>
    rcases List.mem_append.mp member with before | new
    · exact .inl before
    · obtain ⟨rfl, rfl, rfl, rfl⟩ := Event.returned.inj (List.mem_singleton.mp new)
      obtain ⟨_, same⟩ := Exchange.send_refused refused
      rw [same, Exchange.port_updatePort_self (Exchange.has_of_isOpen isOpen)]
      refine .inr ⟨Nat.le_refl _, ?_⟩
      intro waits
      exact absurd ((kept.tidy port).waiting _ waits) (Nat.not_succ_le_self _)
  | fetch caller held waits fetched =>
    rcases List.mem_append.mp member with before | new
    · exact .inl before
    · obtain ⟨rfl, rfl, rfl, rfl⟩ := Event.returned.inj (List.mem_singleton.mp new)
      obtain ⟨answer, move⟩ := Exchange.fetch_move fetched
      exact .inr (move.past ((kept.tidy _).answered _ answer))
  | giveUp caller waits late nothing =>
    rcases List.mem_append.mp member with before | new
    · exact .inl before
    · obtain ⟨rfl, rfl, rfl, rfl⟩ := Event.returned.inj (List.mem_singleton.mp new)
      have made : caller.request ≤ (s.exchange.port caller.port).lastRequest := by
        rcases kept.awaits caller waits with still | ⟨held, answer⟩
        · exact (kept.tidy _).waiting _ still
        · exact ((kept.tidy _).answered _ answer).1
      rw [Exchange.giveUp_port]
      exact .inr ⟨made, by simp⟩
  | openPort => exact .inl (by simpa using member)
  | send target command made isOpen accepted => exact .inl (by simpa using member)
  | hangUp target isOpen sorted cut => exact .inl (by simpa using member)
  | drain target isOpen => exact .inl (by simpa using member)
  | turn intake input offered expected => exact .inl (by simpa using member)
  | _ => exact .inl member

/-- A port that has hung up is over and done with. -/
theorem Step.hungUp (step : Step config s after) (streamed : Streamed s) {port : PortId}
    (member : .hungUp port ∈ after.log) :
    .hungUp port ∈ s.log ∨ after.exchange.isRunning = false ∧
      (after.exchange.port port).waiters = [] ∧ (after.exchange.port port).inbox = [] := by
  cases step with
  | hangUp target isOpen sorted cut =>
    rcases List.mem_append.mp member with before | new
    · exact .inl before
    · obtain rfl := Event.hungUp.inj (List.mem_singleton.mp new)
      have known := Exchange.has_of_isOpen isOpen
      obtain ⟨waiters, inbox, _, _⟩ := Exchange.hangUp_port known
      refine .inr ⟨?_, waiters, inbox.trans sorted⟩
      have running := streamed.connected port known
      unfold Exchange.isRunning at running ⊢
      rw [Exchange.hangUp_within.orchestrator, ← running]
      exact cut
  | openPort => exact .inl (by simpa using member)
  | send target command made isOpen accepted => exact .inl (by simpa using member)
  | refuse target command isOpen refused => exact .inl (by simpa using member)
  | fetch caller result waits fetched => exact .inl (by simpa using member)
  | giveUp caller waits late nothing => exact .inl (by simpa using member)
  | drain target isOpen => exact .inl (by simpa using member)
  | turn intake input offered expected => exact .inl (by simpa using member)
  | _ => exact .inl member

/-- Once the orchestrator has stopped it does not run again. -/
theorem Step.stopped (step : Step config s after) (stopped : s.exchange.isRunning = false) :
    after.exchange.isRunning = false := by
  rcases step.turned with ⟨_, same⟩ | ⟨input, _, turned⟩
  · unfold Exchange.isRunning at stopped ⊢
    rw [same]
    exact stopped
  · have ended : s.exchange.orchestrator.activity = .stopped := by
      simpa [Exchange.isRunning] using stopped
    exact absurd turned.expected (Orchestrator.not_expects_of_stopped ended input)

namespace Kept

theorem start (config : RelayConfig) (started : Nat) : Kept config (.start config started) := by
  have blank : ∀ port, (Exchange.start config started).port port = default := by
    intro port
    cases port <;> rfl
  refine ⟨?_, by simp [Traffic.start], by simp [Traffic.start], by simp [Traffic.start],
    by simp [Traffic.start], by simp [Traffic.start]⟩
  intro port
  rw [show (Traffic.start config started).exchange.port port = default from blank port]
  exact ⟨fun request waits => absurd waits List.not_mem_nil,
    fun answer held => absurd held List.not_mem_nil⟩

theorem step (kept : Kept config s) (streamed : Streamed s) (step : Step config s after) :
    Kept config after where
  tidy := by
    intro port
    obtain ⟨deed, move, _⟩ := step.treats port
    exact move.tidy (kept.tidy port)
  isOpen := by
    intro caller member
    rcases step.caller member with before | ⟨isOpen, _⟩
    · obtain ⟨deed, move, licence⟩ := step.treats caller.port
      refine move.isOpen ?_ (kept.isOpen caller before)
      rintro rfl
      exact licence caller before rfl
    · exact isOpen
  awaits := by
    intro caller member
    rcases step.caller member with before | ⟨_, waits, _⟩
    · obtain ⟨deed, move, licence⟩ := step.treats caller.port
      refine move.awaits ?_ (kept.awaits caller before)
      rintro rfl
      exact licence caller member rfl
    · exact .inl waits
  called := by
    intro caller member
    rcases step.caller member with before | ⟨_, _, command, logged, due⟩
    · obtain ⟨now, command, logged, due⟩ := kept.called caller before
      exact ⟨now, command, step.logged logged, due⟩
    · exact ⟨s.now, command, logged, due⟩
  returned := by
    intro now port request result member
    rcases step.returned kept member with before | past
    · obtain ⟨deed, move, _⟩ := step.treats port
      exact move.past (kept.returned now port request result before)
    · exact past
  hungUp := by
    intro port member
    rcases step.hungUp streamed member with before | final
    · obtain ⟨stopped, settled, sorted⟩ := kept.hungUp port before
      obtain ⟨deed, move, licence⟩ := step.treats port
      refine ⟨step.stopped stopped, move.quiet ?_ ?_ settled sorted⟩
      · rintro rfl
        have running : s.exchange.isRunning = true := licence
        rw [stopped] at running
        cases running
      · rintro messages rfl
        have running : s.exchange.isRunning = true := licence.1
        rw [stopped] at running
        cases running
    · exact final

end Kept

theorem Reaches.kept (reached : Reaches config started s) : Kept config s := by
  induction reached with
  | start => exact .start config started
  | step reached step induction => exact induction.step reached.streamed step

/-! ## Where it all comes from -/

/-- Some turn has sent the message to the port. -/
def Sent (s : Traffic) (port : PortId) (message : PortMessage) : Prop :=
  ∃ turn ∈ s.turns, .toPort port message ∈ turn.sent

/-- What lies in a mailbox was sent to that port, or says that all is over. -/
structure Traced (s : Traffic) : Prop where
  inbox : ∀ port, ∀ message ∈ (s.exchange.port port).inbox, s.Sent port message
  answers : ∀ port request result, (request, result) ∈ (s.exchange.port port).answers →
    s.Sent port (.response request result) ∨
      result = .error .closed ∧ s.exchange.isRunning = false
  notes : ∀ port, ∀ note ∈ (s.exchange.port port).notes,
    s.Sent port (.progress note.request note.event)

theorem Step.sent (step : Step config s after) {port : PortId} {message : PortMessage}
    (sent : s.Sent port message) : after.Sent port message := by
  obtain ⟨turn, member, addressed⟩ := sent
  refine ⟨turn, ?_, addressed⟩
  rcases step.turned with ⟨same, _⟩ | ⟨input, grows, _⟩
  · rw [same]
    exact member
  · rw [grows]
    exact List.mem_append_left _ member

namespace Traced

theorem start (config : RelayConfig) (started : Nat) : Traced (.start config started) := by
  have blank : ∀ port, (Traffic.start config started).exchange.port port = default := by
    intro port
    cases port <;> rfl
  refine ⟨?_, ?_, ?_⟩
  · intro port message member
    rw [blank] at member
    cases member
  · intro port request result member
    rw [blank] at member
    cases member
  · intro port note member
    rw [blank] at member
    cases member

theorem step (traced : Traced s) (streamed : Streamed s) (step : Step config s after) :
    Traced after where
  inbox := by
    intro port message member
    obtain ⟨deed, move, licence⟩ := step.treats port
    rcases move.inbox member with before | ⟨messages, rfl, new⟩
    · exact step.sent (traced.inbox port message before)
    · exact licence.2 message new
  answers := by
    intro port request result member
    obtain ⟨deed, move, _⟩ := step.treats port
    rcases move.answers member with before | carried | ⟨waits, same, cut⟩
    · exact (traced.answers port request result before).imp step.sent
        fun ⟨same, stopped⟩ => ⟨same, step.stopped stopped⟩
    · exact .inl (step.sent (traced.inbox port _ carried))
    · have known : s.exchange.Has port := by
        by_contra missing
        rw [Exchange.port_of_not_has missing] at waits
        cases waits
      exact .inr ⟨same, step.stopped ((streamed.connected port known).symm.trans cut)⟩
  notes := by
    intro port note member
    obtain ⟨deed, move, _⟩ := step.treats port
    rcases move.notes member with before | carried
    · exact step.sent (traced.notes port note before)
    · exact step.sent (traced.inbox port _ carried)

end Traced

theorem Reaches.traced (reached : Reaches config started s) : Traced s := by
  induction reached with
  | start => exact .start config started
  | step reached step induction => exact induction.step reached.streamed step

/-! ## How a send returns -/

/-- Why a send returns what it does: nobody took the request, its answer has come, or it has waited
too long. -/
inductive Returns (s : Traffic) (port : PortId) (request : RequestId) :
    Except RelayError Reply → Prop
  | refused : s.exchange.isRunning = false → Returns s port request (.error .closed)
  | answered (caller : Caller) (result : Except RelayError Reply) :
      caller ∈ s.callers → caller.key = (port, request) →
      (request, result) ∈ (s.exchange.port port).answers → Returns s port request result
  | late (caller : Caller) :
      caller ∈ s.callers → caller.key = (port, request) → caller.deadline ≤ s.now →
      (∀ result, (request, result) ∉ (s.exchange.port port).answers) →
      Returns s port request (.error .timeout)

theorem Step.returns (step : Step config s after) {now : Nat} {port : PortId}
    {request : RequestId} {result : Except RelayError Reply}
    (logs : after.log = s.log ++ [.returned now port request result]) :
    now = s.now ∧ Returns s port request result := by
  have last : ∀ {event : Event}, after.log = s.log ++ [event] →
      event = .returned now port request result := by
    intro event same
    exact List.singleton_inj.mp (List.append_cancel_left (same.symm.trans logs))
  cases step with
  | refuse target command isOpen refused =>
    obtain ⟨rfl, rfl, rfl, rfl⟩ := Event.returned.inj (last rfl)
    exact ⟨rfl, .refused (Exchange.send_refused refused).1⟩
  | fetch caller held waits fetched =>
    obtain ⟨rfl, rfl, rfl, rfl⟩ := Event.returned.inj (last rfl)
    exact ⟨rfl, .answered caller held waits rfl (Exchange.fetch_move fetched).1⟩
  | giveUp caller waits late nothing =>
    obtain ⟨rfl, rfl, rfl, rfl⟩ := Event.returned.inj (last rfl)
    exact ⟨rfl, .late caller waits rfl late (Exchange.fetch_none nothing)⟩
  | openPort => cases last rfl
  | send target command id isOpen accepted => cases last rfl
  | hangUp target isOpen sorted cut => cases last rfl
  | drain target isOpen => cases last rfl
  | turn intake input offered expected => cases last rfl
  | _ => simp at logs

end BrowserScript.Relay.Traffic

import BrowserScript.Proofs.Relay.LinkUse

/-!
# Reconnection

When the link is lost, everything in flight is given up and the connector is called again, a
limited number of times and with longer and longer pauses. After that it is called only for a
request that needs a link, once for each. Main definitions: `RelayConfig.redials`, `Outage`,
`Traffic.Reconnects`. Main results: `Orchestrator.Run.redialling`, `Orchestrator.Run.called_for`,
`Traffic.Reaches.keeps_link`.
-/

set_option autoImplicit false

namespace BrowserScript.Relay

/-! ## Calls of the connector -/

/-- What happens between the orchestrator and the connector, if it does not give a link. -/
inductive Dial where
  | call
  | refused
  | pause (ms : Nat)
  deriving DecidableEq, Repr

def Sending.dial? : Sending → Option Dial
  | .connect => some .call
  | .pause ms => some (.pause ms)
  | _ => none

def Input.dial? : Input → Option Dial
  | .connected none => some .refused
  | _ => none

def Turn.dials (turn : Turn) : List Dial :=
  turn.input.dial?.toList ++ turn.sent.filterMap Sending.dial?

def dials (turns : List Turn) : List Dial := turns.flatMap Turn.dials

theorem dials_snoc (first turn : Turn) (turns : List Turn) :
    dials (first :: (turns ++ [turn])) = dials (first :: turns) ++ turn.dials := by
  simp [dials]

/-- Calls that are all refused, from a certain attempt on. After each but the last there is a
pause, as many times the backoff as there have been attempts. -/
def redials (backoff attempt : Nat) : (more : Nat) → List Dial
  | 0 => [.call, .refused]
  | more + 1 =>
    .call :: .refused :: .pause (attempt * backoff) :: redials backoff (attempt + 1) more

theorem redials_eq_call (backoff attempt more : Nat) :
    redials backoff attempt more = .call :: (redials backoff attempt more).tail := by
  cases more <;> rfl

theorem count_redials (backoff attempt more : Nat) :
    (redials backoff attempt more).count .call = more + 1 := by
  induction more generalizing attempt with
  | zero => rfl
  | succ more induction => simp [redials, induction]

/-- All that happens when a lost link cannot be replaced. -/
def RelayConfig.redials (config : RelayConfig) : List Dial :=
  Relay.redials config.reconnectBackoff 1 (config.reconnectAttempts - 1)

theorem RelayConfig.count_redials (config : RelayConfig) :
    config.redials.count .call = max 1 config.reconnectAttempts := by
  unfold RelayConfig.redials
  rw [Relay.count_redials]
  omega

namespace Orchestrator

variable {o after : Orchestrator} {now : Nat} {isOpen : LinkId → Bool} {input : Input}
  {sent : List Sending} {attempt attempts : Nat} {waiting : Option Waiting}

/-! ## What a turn has to do with the connector -/

theorem dials_respond (port : PortId) (request : RequestId) (result : Except RelayError Reply) :
    (o.respond port request result).filterMap Sending.dial? = [] := by
  unfold respond
  split <;> rfl

theorem dials_respondAll (entries : List Pending) (error : RelayError) :
    (o.respondAll entries error).filterMap Sending.dial? = [] := by
  simp [respondAll, List.filterMap_flatMap, dials_respond]

theorem not_connect_respond (port : PortId) (request : RequestId)
    (result : Except RelayError Reply) : .connect ∉ o.respond port request result := by
  unfold respond
  split <;> simp

theorem not_connect_respondAll (entries : List Pending) (error : RelayError) :
    .connect ∉ o.respondAll entries error := by
  intro member
  obtain ⟨entry, _, answer⟩ := List.mem_flatMap.mp member
  exact not_connect_respond _ _ _ answer

theorem expects_connecting (asking : o.activity = .connecting attempt attempts waiting)
    (expected : o.Expects input) : ∃ link, input = .connected link := by
  cases input <;> simp [Expects, asking] at expected ⊢

theorem expects_pausing {due : Nat} (pausing : o.activity = .pausing attempt attempts due)
    (expected : o.Expects input) : input = .pauseOver := by
  cases input <;> simp [Expects, pausing] at expected ⊢

theorem take_linked {link : LinkId} (asking : o.activity = .connecting attempt attempts none) :
    o.take now isOpen (.connected (some link)) =
      ({ o with link := some link, activity := .idle }, []) := by
  simp [take, connected, asking]

theorem take_refused (asking : o.activity = .connecting attempt attempts waiting)
    (again : attempt < attempts) :
    o.take now isOpen (.connected none) =
      ({ o with
          activity := .pausing attempt attempts (now + attempt * o.config.reconnectBackoff) },
        [.pause (attempt * o.config.reconnectBackoff)]) := by
  simp [take, connected, asking, again, Nat.mul_comm]

theorem take_refused_last (asking : o.activity = .connecting attempt attempts waiting)
    (last : attempts ≤ attempt) :
    o.take now isOpen (.connected none) =
      ({ o with activity := .idle }, waiting.toList.flatMap fun request =>
        o.respond request.port request.request (.error .disconnected)) := by
  simp [take, connected, asking, Nat.not_lt.mpr last]

theorem take_resumed {due : Nat} (pausing : o.activity = .pausing attempt attempts due) :
    o.take now isOpen .pauseOver =
      ({ o with activity := .connecting (attempt + 1) attempts none }, [.connect]) := by
  simp [take, pauseOver, pausing, connect]

/-- Where the orchestrator waits for the connector it has just called it, and where it pauses a
call has just been refused. -/
theorem Outcome.busy_from (outcome : o.Outcome now isOpen input after sent)
    (expected : o.Expects input) :
    (∀ attempt attempts waiting, after.activity = .connecting attempt attempts waiting →
        .connect ∈ sent) ∧
      ∀ attempt attempts due, after.activity = .pausing attempt attempts due →
        input = .connected none ∧ attempt < attempts ∧
          ∃ waiting, o.activity = .connecting attempt attempts waiting := by
  have quiet : ∀ sent : List Sending, o.activity = .idle →
      (∀ attempt attempts waiting, o.activity = .connecting attempt attempts waiting →
        .connect ∈ sent) ∧
      ∀ attempt attempts due, o.activity = .pausing attempt attempts due →
        input = .connected none ∧ attempt < attempts ∧
          ∃ waiting, o.activity = .connecting attempt attempts waiting := by
    intro sent idle
    simp [idle]
  cases outcome with
  | retried attempt attempts pause waiting asking again =>
    refine ⟨by simp, ?_⟩
    rintro _ _ _ ⟨⟩
    exact ⟨rfl, again, waiting, asking⟩
  | opened port => exact quiet _ expected
  | closed port => exact quiet _ expected
  | refused port request command error reason => exact quiet _ expected
  | counted asker => exact quiet _ expected
  | swept next => exact quiet _ expected
  | replied relayId reply entry found => exact quiet _ expected.1
  | progressed relayId event entry found => exact quiet _ expected.1
  | passedOver message => exact quiet _ expected.1
  | _ => simp [lost]

/-- The connector is called when the link is lost, after a pause, and for a request. -/
theorem Outcome.connect_sent (outcome : o.Outcome now isOpen input after sent)
    (calls : .connect ∈ sent) :
    input = .linkEnded ∨ (∃ link request, o.Hands input link request ∧ isOpen link = false) ∨
      (∃ attempt attempts due, o.activity = .pausing attempt attempts due) ∨
      ∃ port request command prepared, input = .message (.request port request command) ∧
        o.prepare command = .ok prepared ∧
        after.activity = .connecting 1 1 (some ⟨port, request, prepared⟩) := by
  cases outcome with
  | asked port request command prepared ready idle =>
    exact .inr (.inr (.inr ⟨port, request, command, prepared, rfl, ready, rfl⟩))
  | undeliverable _ link request handed isDead => exact .inr (.inl ⟨link, request, handed, isDead⟩)
  | ended idle => exact .inl rfl
  | resumed attempt attempts due pausing =>
    exact .inr (.inr (.inl ⟨attempt, attempts, due, pausing⟩))
  | refused port request command error reason => exact absurd calls (not_connect_respond _ _ _)
  | stopped idle => exact absurd calls (not_connect_respondAll _ _)
  | replied relayId reply entry found => exact absurd calls (not_connect_respond _ _ _)
  | progressed relayId event entry found =>
    split at calls <;> simp at calls
  | swept next => exact absurd calls (not_connect_respondAll _ _)
  | unreachable attempt attempts waiting asking =>
    obtain ⟨request, _, answer⟩ := List.mem_flatMap.mp calls
    exact absurd answer (not_connect_respond _ _ _)
  | _ => simp at calls

end Orchestrator

/-! ## The loss of a link -/

/-- What is left after the loss of the link, and that the connector is called. -/
theorem Turn.loses {turn : Turn} (lost : turn.LosesLink) :
    turn.after.link = none ∧ turn.after.pending = [] ∧
      turn.after.activity = .connecting 1 turn.before.config.reconnectAttempts none ∧
      turn.dials = [.call] := by
  have silent : ∀ {link request}, turn.before.Hands turn.input link request →
      turn.input.dial? = none := by
    intro link request handed
    generalize turn.input = input at handed ⊢
    cases handed <;> rfl
  unfold Turn.dials Turn.after Turn.sent
  rcases lost with ends | ⟨link, request, handed, isDead⟩
  · rw [ends, Orchestrator.take_linkEnded]
    refine ⟨rfl, rfl, rfl, ?_⟩
    rw [List.filterMap_append, Orchestrator.dials_respondAll]
    rfl
  · rw [handed.take_dead isDead, silent handed]
    refine ⟨rfl, rfl, rfl, ?_⟩
    rw [List.filterMap_append, List.filterMap_append, Orchestrator.dials_respond,
      Orchestrator.dials_respondAll]
    rfl

/-- The turns end with the loss of the link and the phase after it, in which the orchestrator has
not been idle. -/
structure Outage (turns : List Turn) (loss : Turn) (phase : List Turn) : Prop where
  lost : loss.LosesLink
  follows : ∃ earlier, turns = earlier ++ loss :: phase
  busy : ∀ turn ∈ phase, turn.before.activity ≠ .idle

namespace Outage

variable {turns phase : List Turn} {loss turn : Turn}

theorem start (lost : turn.LosesLink) : Outage (turns ++ [turn]) turn [] :=
  ⟨lost, ⟨turns, rfl⟩, by simp⟩

theorem snoc (outage : Outage turns loss phase) (busy : turn.before.activity ≠ .idle) :
    Outage (turns ++ [turn]) loss (phase ++ [turn]) := by
  obtain ⟨earlier, rfl⟩ := outage.follows
  refine ⟨outage.lost, ⟨earlier, by simp⟩, ?_⟩
  intro other member
  rcases List.mem_append.mp member with before | last
  · exact outage.busy other before
  · rw [List.mem_singleton.mp last]
    exact busy

/-- The last turn is the loss itself, or one of the phase after it. -/
theorem snoc_cases (outage : Outage (turns ++ [turn]) loss phase) :
    (loss = turn ∧ phase = []) ∨
      ∃ rest, phase = rest ++ [turn] ∧ Outage turns loss rest ∧
        turn.before.activity ≠ .idle := by
  obtain ⟨lost, ⟨earlier, split⟩, busy⟩ := outage
  rcases List.eq_nil_or_concat phase with rfl | ⟨rest, final, rfl⟩
  · obtain ⟨_, same⟩ := List.append_inj' split rfl
    exact .inl ⟨(List.singleton_inj.mp same).symm, rfl⟩
  · rw [List.concat_eq_append] at split busy ⊢
    have longer : turns ++ [turn] = (earlier ++ loss :: rest) ++ [final] := by
      rw [split]
      simp
    obtain ⟨past, same⟩ := List.append_inj' longer rfl
    obtain rfl := List.singleton_inj.mp same
    exact .inr ⟨rest, rfl, ⟨lost, ⟨earlier, past⟩, fun other member =>
      busy other (List.mem_append_left _ member)⟩, busy turn (by simp)⟩

end Outage

/-! ## How an outage goes on -/

/-- How far the orchestrator has come with calling the connector since the loss of the link. -/
inductive Redialling (config : RelayConfig) (dialled : List Dial) (o : Orchestrator) : Prop
  | calling (attempt more : Nat) :
      o.activity = .connecting attempt config.reconnectAttempts none → 0 < attempt →
      attempt + more = max 1 config.reconnectAttempts →
      config.redials = dialled ++ (redials config.reconnectBackoff attempt more).tail →
      Redialling config dialled o
  | pausing (attempt more due : Nat) :
      o.activity = .pausing attempt config.reconnectAttempts due → 0 < attempt →
      attempt + 1 + more = max 1 config.reconnectAttempts →
      config.redials = dialled ++ redials config.reconnectBackoff (attempt + 1) more →
      Redialling config dialled o
  | linked : o.activity = .idle → o.link.isSome → dialled <+: config.redials →
      Redialling config dialled o
  | exhausted : o.activity = .idle → o.link = none → dialled = config.redials →
      Redialling config dialled o

namespace Redialling

variable {config : RelayConfig} {dialled : List Dial} {o : Orchestrator}

theorem start {loss : Turn} (lost : loss.LosesLink) (configured : loss.before.config = config) :
    Redialling config loss.dials loss.after := by
  obtain ⟨_, _, calling, dials⟩ := Turn.loses lost
  rw [configured] at calling
  rw [dials]
  exact .calling 1 (config.reconnectAttempts - 1) calling Nat.one_pos (by omega)
    (redials_eq_call _ _ _)

theorem step {turn : Turn} (redialling : Redialling config dialled turn.before)
    (configured : turn.before.config = config) (moored : turn.before.Moored)
    (expected : turn.before.Expects turn.input) (busy : turn.before.activity ≠ .idle) :
    Redialling config (dialled ++ turn.dials) turn.after := by
  have unlinked := moored.adrift busy
  unfold Turn.dials Turn.after Turn.sent
  cases redialling with
  | calling attempt more asking positive sum left =>
    obtain ⟨link, input⟩ := Orchestrator.expects_connecting asking expected
    rw [input]
    cases link with
    | some link =>
      rw [Orchestrator.take_linked asking]
      exact .linked rfl rfl ⟨(redials config.reconnectBackoff attempt more).tail,
        by rw [left]; simp [Input.dial?]⟩
    | none =>
      cases more with
      | zero =>
        rw [Orchestrator.take_refused_last asking (by omega)]
        exact .exhausted rfl unlinked left.symm
      | succ more =>
        rw [Orchestrator.take_refused asking (by omega), configured]
        refine .pausing attempt more _ rfl positive (by omega) ?_
        rw [left]
        simp [redials, Input.dial?, Sending.dial?]
  | pausing attempt more due paused positive sum left =>
    rw [Orchestrator.expects_pausing paused expected, Orchestrator.take_resumed paused]
    refine .calling (attempt + 1) more rfl (Nat.succ_pos _) sum ?_
    rw [left, redials_eq_call]
    simp [Input.dial?, Sending.dial?]
  | linked idle _ _ => exact absurd idle busy
  | exhausted idle _ _ => exact absurd idle busy

theorem dialled_prefix (redialling : Redialling config dialled o) : dialled <+: config.redials := by
  cases redialling with
  | calling attempt more _ _ _ left => exact ⟨_, left.symm⟩
  | pausing attempt more due _ _ _ left => exact ⟨_, left.symm⟩
  | linked _ _ first => exact first
  | exhausted _ _ all => exact all ▸ List.prefix_rfl

theorem ended (redialling : Redialling config dialled o) (idle : o.activity = .idle) :
    o.link.isSome ∨ dialled = config.redials := by
  cases redialling with
  | calling attempt more asking _ _ _ => simp [asking] at idle
  | pausing attempt more due paused _ _ _ => simp [paused] at idle
  | linked _ linked _ => exact .inl linked
  | exhausted _ _ all => exact .inr all

end Redialling

namespace Orchestrator.Run

variable {config : RelayConfig} {started : Nat} {turns : List Turn} {o : Orchestrator}

/-- Since the loss of the link the connector has been called as planned. -/
theorem redialling (run : Run config started turns o) :
    ∀ loss phase, Outage turns loss phase → Redialling config (dials (loss :: phase)) o := by
  induction run with
  | start =>
    rintro loss phase ⟨_, ⟨earlier, split⟩, _⟩
    simp at split
  | turn turns turn run expected induction =>
    intro loss phase outage
    rcases outage.snoc_cases with ⟨rfl, rfl⟩ | ⟨rest, rfl, earlier, busy⟩
    · rw [dials, List.flatMap_singleton]
      exact .start outage.lost run.config_eq
    · rw [dials_snoc]
      exact (induction loss rest earlier).step run.config_eq run.moored expected busy

/-- Calls that are not for a request, and pauses, come of the loss of a link. -/
theorem outage (run : Run config started turns o)
    (busy : (∃ attempt attempts, o.activity = .connecting attempt attempts none) ∨
      ∃ attempt attempts due, o.activity = .pausing attempt attempts due) :
    ∃ loss phase, Outage turns loss phase := by
  induction run with
  | start => simp [Orchestrator.start] at busy
  | turn turns turn run expected induction =>
    have goesOn : (∃ loss phase, Outage turns loss phase) → turn.before.activity ≠ .idle →
        ∃ loss phase, Outage (turns ++ [turn]) loss phase := by
      rintro ⟨loss, phase, outage⟩ busy
      exact ⟨loss, phase ++ [turn], outage.snoc busy⟩
    have outcome := turn.outcome expected
    rcases busy with ⟨attempt, attempts, calling⟩ | ⟨attempt, attempts, due, paused⟩
    · rcases outcome.connect_sent ((outcome.busy_from expected).1 _ _ _ calling) with
        ends | dead | ⟨attempt, attempts, due, paused⟩ | ⟨_, _, _, _, _, _, asking⟩
      · exact ⟨turn, [], .start (.inl ends)⟩
      · exact ⟨turn, [], .start (.inr dead)⟩
      · exact goesOn (induction (.inr ⟨attempt, attempts, due, paused⟩)) (by simp [paused])
      · rw [calling] at asking
        cases asking
    · obtain ⟨_, again, waiting, asking⟩ := (outcome.busy_from expected).2 _ _ _ paused
      cases waiting with
      | none => exact goesOn (induction (.inl ⟨attempt, attempts, asking⟩)) (by simp [asking])
      | some request =>
        exact absurd again (Nat.not_lt.mpr (run.waiting_taken asking).1)

/-- The connector is called in an outage, or for a request that needs a link. -/
theorem called_for (run : Run config started turns o) {earlier later : List Turn} {turn : Turn}
    (split : turns = earlier ++ turn :: later) (calls : .connect ∈ turn.sent) :
    (∃ loss phase, Outage (earlier ++ [turn]) loss phase) ∨
      ∃ port request command prepared, turn.input = .message (.request port request command) ∧
        turn.before.prepare command = .ok prepared ∧ turn.before.link = none := by
  obtain ⟨past, expected⟩ := run.before_turn earlier later turn split
  rcases (turn.outcome expected).connect_sent calls with
    ends | dead | ⟨attempt, attempts, due, paused⟩ |
      ⟨port, request, command, prepared, asks, ready, asking⟩
  · exact .inl ⟨turn, [], .start (.inl ends)⟩
  · exact .inl ⟨turn, [], .start (.inr dead)⟩
  · obtain ⟨loss, phase, outage⟩ := past.outage (.inr ⟨attempt, attempts, due, paused⟩)
    exact .inl ⟨loss, phase ++ [turn], outage.snoc (by simp [paused])⟩
  · refine .inr ⟨port, request, command, prepared, asks, ready, ?_⟩
    rw [asks] at expected
    unfold Turn.after at asking
    rw [asks] at asking
    exact take_waiting expected asking

theorem handed_over (run : Run config started turns o) {link : LinkId}
    (used : o.link = some link) : Traffic.HandedOver turns link := by
  induction run with
  | start => cases used
  | turn turns turn run expected induction =>
    rw [Traffic.handedOver_append]
    exact (run.moored.link_from expected used).imp induction And.right

/-- A request for which there is no link waits for one call of the connector. -/
theorem asks_once (run : Run config started turns o) (orderly : Orderly (taken turns))
    {earlier later : List Turn} {turn : Turn} (split : turns = earlier ++ turn :: later)
    {port : PortId} {request : RequestId} {command prepared : Command}
    (asks : turn.input = .message (.request port request command))
    (ready : turn.before.prepare command = .ok prepared) (unlinked : turn.before.link = none) :
    turn.sent = [.connect] ∧ ∀ next rest, later = next :: rest →
      (∃ link, next.before.Hands next.input link ⟨port, request, prepared⟩) ∨
        next.input = .connected none ∧
          next.sent = [.toPort port (.response request (.error .disconnected))] ∧
          next.after.activity = .idle ∧ next.after.link = none := by
  constructor
  · rw [Turn.sent, asks, take_unlinked ready unlinked]
  · rintro next rest rfl
    have longer : turns = (earlier ++ [turn]) ++ next :: rest := by simp [split]
    obtain ⟨past, expected⟩ := run.before_turn _ rest next longer
    have asking : next.before.activity = .connecting 1 1 (some ⟨port, request, prepared⟩) := by
      rw [past.last.2.2, Turn.after, asks, take_unlinked ready unlinked]
    have adrift : next.before.link = none := past.moored.adrift (by simp [asking])
    have known : port ∈ next.before.ports :=
      (past.addressed (longer ▸ orderly).before_split).waiting ⟨port, request, prepared⟩
        (by simp [waiting, asking])
    obtain ⟨link, answered⟩ := expects_connecting asking expected
    cases link with
    | some link =>
      refine .inl ⟨link, ?_⟩
      rw [answered]
      exact .kept 1 1 link _ asking
    | none =>
      refine .inr ⟨answered, ?_⟩
      unfold Turn.sent Turn.after
      rw [answered, take_refused_last asking (Nat.le_refl 1)]
      refine ⟨?_, rfl, adrift⟩
      simp [respond_known known]

end Orchestrator.Run

namespace Traffic

variable {config : RelayConfig} {started : Nat} {s : Traffic}

/-! ## Time -/

/-- No pause is cut short. -/
theorem Reaches.punctual (reached : Reaches config started s) {turn : Turn}
    (member : turn ∈ s.turns) (resumes : turn.input = .pauseOver) {attempt attempts due : Nat}
    (paused : turn.before.activity = .pausing attempt attempts due) : due ≤ turn.now := by
  induction reached with
  | start => cases member
  | step reached step induction =>
    rcases step.ends with ⟨turns, _⟩ | ⟨intake, input, offered, _, turns, _⟩
    · rw [turns] at member
      exact induction member
    · rw [turns] at member
      rcases List.mem_append.mp member with before | last
      · exact induction before
      · obtain rfl := List.mem_singleton.mp last
        obtain rfl : input = .pauseOver := resumes
        cases offered with
        | pauseOver _ _ _ pausing late =>
          obtain ⟨_, _, rfl⟩ : _ ∧ _ ∧ _ := by simpa using pausing.symm.trans paused
          exact late

/-- Between a call that is refused and the next there is a pause as many times the backoff as there
have been attempts. -/
theorem Reaches.pauses (reached : Reaches config started s) {earlier later : List Turn}
    {first second : Turn} (split : s.turns = earlier ++ first :: second :: later)
    (resumes : second.input = .pauseOver) :
    ∃ attempt, first.input = .connected none ∧
      first.sent = [.pause (attempt * config.reconnectBackoff)] ∧
      first.now + attempt * config.reconnectBackoff ≤ second.now := by
  have longer : s.turns = (earlier ++ [first]) ++ second :: later := by simp [split]
  obtain ⟨past, expected⟩ := reached.run.before_turn _ later second longer
  obtain ⟨before, awaited, same⟩ := past.last
  rw [resumes] at expected
  obtain ⟨attempt, attempts, due, paused⟩ := expected
  have late := reached.punctual (by simp [split]) resumes paused
  rw [same] at paused
  obtain ⟨refused, again, waiting, asking⟩ :=
    ((first.outcome awaited).busy_from awaited).2 _ _ _ paused
  have taken : first.before.take first.now first.isOpen first.input = _ :=
    refused ▸ Orchestrator.take_refused asking again
  rw [before.config_eq] at taken
  rw [Turn.after, taken] at paused
  refine ⟨attempt, refused, by rw [Turn.sent, taken], ?_⟩
  have planned : first.now + attempt * config.reconnectBackoff = due := by simpa using paused
  exact planned ▸ late

/-! ## The link in all its states -/

/-- How the orchestrator keeps up its link. -/
structure Reconnects (config : RelayConfig) (started : Nat) (s : Traffic) : Prop where
  /-- Of the links it has been given, the orchestrator still has its receiving end of the one it
  sends on, and of no other. -/
  halves : Supplied config started s → ∀ link, HandedOver s.turns link →
    ((s.exchange.link link).isDropped = false ↔ s.exchange.orchestrator.link = some link)
  /-- Whatever the connector hands over, the orchestrator has dropped its receiving end of a link
  it does not send on. -/
  unused : ∀ link, HandedOver s.turns link → s.exchange.orchestrator.link ≠ some link →
    (s.exchange.link link).isDropped = true
  given : ∀ link, s.exchange.orchestrator.link = some link → HandedOver s.turns link
  empty : s.exchange.orchestrator.link = none → s.exchange.orchestrator.pending = []
  /-- Everything in flight has been forwarded on the link in use. -/
  forwarded : ∀ entry ∈ s.exchange.orchestrator.pending,
    s.exchange.orchestrator.Forwarded s.turns entry
  /-- When nothing more can come on the link, everything in flight is answered. -/
  ended : ∀ turn ∈ s.turns, turn.input = .linkEnded →
    turn.sent = Orchestrator.each turn.before.pending .timeout ++ [.connect]
  /-- When a request cannot be sent on the link, it is answered, and so is everything in flight. -/
  undelivered : ∀ turn ∈ s.turns, ∀ link request, turn.before.Hands turn.input link request →
    turn.isOpen link = false →
      turn.sent = .toPort request.port (.response request.request (.error .disconnected)) ::
        (Orchestrator.each turn.before.pending .timeout ++ [.connect])
  lost : ∀ turn ∈ s.turns, turn.LosesLink → turn.after.link = none ∧ turn.after.pending = []
  /-- No request is answered twice. -/
  once : (answers s.turns).Nodup
  /-- After the loss of the link the connector is called as planned, until it gives a link or the
  plan has been carried out. -/
  redials : ∀ loss phase, Outage s.turns loss phase →
    dials (loss :: phase) <+: config.redials ∧
      (dials (loss :: phase)).count .call ≤ max 1 config.reconnectAttempts ∧
      (s.exchange.orchestrator.activity = .idle →
        s.exchange.orchestrator.link.isSome ∨ dials (loss :: phase) = config.redials)
  /-- The pauses are kept. -/
  pauses : ∀ earlier first second later, s.turns = earlier ++ first :: second :: later →
    second.input = .pauseOver →
      ∃ attempt, first.input = .connected none ∧
        first.sent = [.pause (attempt * config.reconnectBackoff)] ∧
        first.now + attempt * config.reconnectBackoff ≤ second.now
  /-- Nothing but the loss of the link and a valid request without a link makes the orchestrator
  call the connector. -/
  calls : ∀ earlier turn later, s.turns = earlier ++ turn :: later → .connect ∈ turn.sent →
    (∃ loss phase, Outage (earlier ++ [turn]) loss phase) ∨
      ∃ port request command prepared, turn.input = .message (.request port request command) ∧
        turn.before.prepare command = .ok prepared ∧ turn.before.link = none
  /-- A valid request without a link has the connector called once. It is sent on the link that the
  connector gives, or answered. -/
  asks : ∀ earlier turn later port request command prepared, s.turns = earlier ++ turn :: later →
    turn.input = .message (.request port request command) →
    turn.before.prepare command = .ok prepared → turn.before.link = none →
      turn.sent = [.connect] ∧ ∀ next rest, later = next :: rest →
        (∃ link, next.before.Hands next.input link ⟨port, request, prepared⟩) ∨
          next.input = .connected none ∧
            next.sent = [.toPort port (.response request (.error .disconnected))] ∧
            next.after.activity = .idle ∧ next.after.link = none
  /-- An invalid command is answered and changes nothing. -/
  invalid : ∀ turn ∈ s.turns, ∀ port request command error,
    turn.input = .message (.request port request command) →
    turn.before.prepare command = .error error →
      turn.after = turn.before ∧ turn.sent = [.toPort port (.response request (.error error))]

/-- The orchestrator at each of its turns knows the ports of all that is unanswered. -/
theorem Reaches.addressed_at (reached : Reaches config started s) {turn : Turn}
    (member : turn ∈ s.turns) :
    turn.before.Addressed ∧ ∀ port request command,
      turn.input = .message (.request port request command) → port ∈ turn.before.ports := by
  have orderly := reached.streamed.spoken.prior.orderly
  obtain ⟨earlier, later, split⟩ := List.append_of_mem member
  obtain ⟨past, expected⟩ := reached.run.before_turn earlier later turn split
  have longer : s.turns = (earlier ++ [turn]) ++ later := by simp [split]
  rw [longer] at orderly
  have whole := orderly.before_split
  exact ⟨past.addressed whole.before_split, fun port request command asks =>
    past.asker_known expected whole asks⟩

end Traffic

end BrowserScript.Relay

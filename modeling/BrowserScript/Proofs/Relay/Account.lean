import BrowserScript.Proofs.Relay.Assignment
import Mathlib.Data.List.Count
import Mathlib.Data.List.Perm.Basic

/-!
# The account of requests

For one request, what the orchestrator holds and what it has answered always add up to what it was
asked. The account of a turn may lose a request only when its port is unknown or just closed; no
turn ever answers more than it was asked.
-/

set_option autoImplicit false

namespace BrowserScript.Relay

/-- The request a message of a port makes. -/
def Message.asked? : Message → Option RequestKey
  | .request port id _ => some (port, id)
  | _ => none

theorem Message.asked?_eq {message : Message} {key : RequestKey}
    (asked : message.asked? = some key) : ∃ command, message = .request key.1 key.2 command := by
  cases message <;> simp [Message.asked?] at asked
  exact ⟨_, by rw [← asked]⟩

def Input.asked : Input → List RequestKey
  | .message taken => taken.asked?.toList
  | _ => []

/-- The request that a sending answers. -/
def Sending.answered? : Sending → Option RequestKey
  | .toPort port (.response request _) => some (port, request)
  | _ => none

def answered (sent : List Sending) : List RequestKey := sent.filterMap Sending.answered?

theorem answered_append (left right : List Sending) :
    answered (left ++ right) = answered left ++ answered right := List.filterMap_append

@[simp] theorem answered_connect : answered [.connect] = [] := rfl

@[simp] theorem answered_pause (pause : Nat) : answered [.pause pause] = [] := rfl

@[simp] theorem answered_toWorker (link : LinkId) (request : LinkRequest) :
    answered [.toWorker link request] = [] := rfl

@[simp] theorem answered_pendingCount (asker count : Nat) :
    answered [.pendingCount asker count] = [] := rfl

@[simp] theorem answered_progress (port : PortId) (request : RequestId) (event : ProgressEvent) :
    answered [.toPort port (.progress request event)] = [] := rfl

@[simp] theorem answered_nil : answered [] = [] := rfl

namespace Orchestrator

/-- The request that waits for a link. -/
def waiting (o : Orchestrator) : List Waiting :=
  match o.activity with
  | .connecting _ _ waiting => waiting.toList
  | _ => []

/-- The requests that have been taken in and are not answered yet. -/
def held (o : Orchestrator) : List RequestKey :=
  o.pending.map Pending.key ++ o.waiting.map Waiting.key

variable {o after : Orchestrator} {now : Nat} {isOpen : LinkId → Bool} {input : Input}
  {sent : List Sending}

theorem waiting_idle (idle : o.activity = .idle) : o.waiting = [] := by
  simp [waiting, idle]

theorem answered_respond (o : Orchestrator) (port : PortId) (request : RequestId)
    (result : Except RelayError Reply) :
    answered (o.respond port request result) =
      ([(port, request)] : List RequestKey).filter fun key => o.ports.contains key.1 := by
  unfold respond
  split <;> simp_all [answered, Sending.answered?]

/-- Requests are answered one by one, each on its port if that is known. -/
theorem answered_each {Entry : Type} (o : Orchestrator) (key : Entry → RequestKey)
    (entries : List Entry) (error : RelayError) :
    answered (entries.flatMap fun entry => o.respond (key entry).1 (key entry).2 (.error error)) =
      (entries.map key).filter fun key => o.ports.contains key.1 := by
  induction entries with
  | nil => rfl
  | cons entry rest induction =>
    rw [List.flatMap_cons, answered_append, answered_respond, induction, List.map_cons,
      ← List.singleton_append, ← List.filter_append]
    rfl

theorem answered_respondAll (o : Orchestrator) (entries : List Pending) (error : RelayError) :
    answered (o.respondAll entries error) =
      (entries.map Pending.key).filter fun key => o.ports.contains key.1 :=
  answered_each o Pending.key entries error

/-- Taking out the entry of one relay id takes out one request. -/
theorem count_without (entries : List Pending) (key : RequestKey) {entry : Pending}
    (distinct : entries.Pairwise fun earlier later => earlier.relayId < later.relayId)
    (known : entry ∈ entries) :
    (entries.map Pending.key).count key =
      ((entries.filter fun other => other.relayId != entry.relayId).map Pending.key).count key +
        [entry.key].count key := by
  induction entries with
  | nil => cases known
  | cons first rest induction =>
    obtain ⟨lower, ordered⟩ := List.pairwise_cons.mp distinct
    rcases List.mem_cons.mp known with rfl | later
    · have others : rest.filter (fun other => other.relayId != entry.relayId) = rest := by
        rw [List.filter_eq_self]
        intro other member
        simpa using Nat.ne_of_gt (lower other member)
      rw [List.filter_cons, if_neg (by simp), others, List.map_cons, ← List.singleton_append,
        List.count_append, Nat.add_comm]
    · have apart : (first.relayId != entry.relayId) = true := by
        simpa using Nat.ne_of_lt (lower entry later)
      have counted := induction ordered later
      rw [List.filter_cons, if_pos apart, List.map_cons, List.map_cons, List.count_cons,
        List.count_cons]
      omega

/-- A sweep parts the entries without losing one. -/
theorem count_parted (entries : List Pending) (key : RequestKey) (isOld : Pending → Bool) :
    (entries.map Pending.key).count key =
      ((entries.filter fun entry => !isOld entry).map Pending.key).count key +
        ((entries.filter isOld).map Pending.key).count key := by
  have parts := ((List.filter_append_perm isOld entries).map Pending.key).count_eq key
  rw [List.map_append, List.count_append] at parts
  omega

theorem count_held (o : Orchestrator) (key : RequestKey) :
    o.held.count key =
      (o.pending.map Pending.key).count key + (o.waiting.map Waiting.key).count key := by
  rw [held, List.count_append]

theorem Hands.account {link : LinkId} {request : Waiting} (handed : o.Hands input link request)
    (key : RequestKey) :
    (o.waiting.map Waiting.key).count key + input.asked.count key = [request.key].count key := by
  cases handed with
  | fresh port id command prepared link ready linked idle =>
    simp [waiting_idle idle, Input.asked, Message.asked?, Waiting.key]
  | kept attempt attempts link request asking => simp [waiting, asking, Input.asked]

/-- The requests whose port is unknown: what answers them goes nowhere. -/
def lapsed (o : Orchestrator) (keys : List RequestKey) : List RequestKey :=
  keys.filter fun key => !o.ports.contains key.1

theorem not_known_of_lapsed {keys : List RequestKey} {key : RequestKey}
    (member : key ∈ o.lapsed keys) : key.1 ∉ o.ports := by
  simpa using (List.mem_filter.mp member).2

theorem count_lapsed (o : Orchestrator) (keys : List RequestKey) (key : RequestKey) :
    keys.count key =
      (keys.filter fun key => o.ports.contains key.1).count key + (o.lapsed keys).count key := by
  have parts := (List.filter_append_perm (fun key : RequestKey => o.ports.contains key.1) keys)
    |>.count_eq key
  rw [List.count_append] at parts
  exact parts.symm

/-- Every request held or asked is held on, answered, or dropped, and it is dropped only when its
port is unknown or has just been closed. -/
def Balances (o : Orchestrator) (input : Input) (after : Orchestrator) (sent : List Sending) :
    Prop :=
  ∃ dropped : List RequestKey,
    (∀ key, o.held.count key + input.asked.count key =
      after.held.count key + (answered sent).count key + dropped.count key) ∧
    ∀ key ∈ dropped, key.1 ∉ o.ports ∨ input = .message (.closePort key.1)

/-- A turn that drops nothing. -/
theorem Balances.of_all_kept
    (balanced : ∀ key, o.held.count key + input.asked.count key =
      after.held.count key + (answered sent).count key) : o.Balances input after sent :=
  ⟨[], balanced, fun _ member => absurd member List.not_mem_nil⟩

/-- A turn that settles these requests: it answers those among them whose ports are known. -/
theorem Balances.of_settled (settled : List RequestKey)
    (balanced : ∀ key, o.held.count key + input.asked.count key =
      after.held.count key + settled.count key)
    (answers : answered sent = settled.filter fun key => o.ports.contains key.1) :
    o.Balances input after sent := by
  refine ⟨o.lapsed settled, fun key => ?_, fun key member => .inl (not_known_of_lapsed member)⟩
  rw [answers, Nat.add_assoc, ← count_lapsed]
  exact balanced key

theorem Outcome.account (outcome : o.Outcome now isOpen input after sent)
    (distinct : o.pending.Pairwise fun earlier later => earlier.relayId < later.relayId)
    (single : ∀ attempt attempts request,
      o.activity = .connecting attempt attempts (some request) → attempts ≤ attempt) :
    o.Balances input after sent := by
  cases outcome with
  | opened port => exact .of_all_kept fun key => rfl
  | closed port =>
    refine ⟨(o.pending.filter fun entry => entry.port == port).map Pending.key, ?_, ?_⟩
    · intro key
      have parted := count_parted o.pending key fun entry => entry.port == port
      simp [count_held, Input.asked, Message.asked?, waiting, bne] at parted ⊢
      omega
    · intro key member
      obtain ⟨entry, known, rfl⟩ := List.mem_map.mp member
      have same : entry.port = port := by simpa using (List.mem_filter.mp known).2
      exact .inr (by rw [← same]; rfl)
  | refused port request command error reason =>
    exact .of_settled [(port, request)] (fun key => rfl) (answered_respond ..)
  | asked port request command prepared ready idle =>
    refine .of_all_kept fun key => ?_
    rw [count_held, waiting_idle idle]
    simp [count_held, waiting, Input.asked, Message.asked?, Waiting.key]
  | forwarded _ link request handed isLive =>
    refine .of_all_kept fun key => ?_
    have account := handed.account key
    have added : (o.pending ++ [o.entryFor now request]).map Pending.key =
        o.pending.map Pending.key ++ [request.key] := by
      simp [entryFor, Pending.key, Waiting.key]
    rw [count_held, count_held]
    change _ = ((o.pending ++ [o.entryFor now request]).map Pending.key).count key + 0 + 0
    rw [added, List.count_append]
    omega
  | undeliverable _ link request handed isDead =>
    refine .of_settled (request.key :: o.pending.map Pending.key) (fun key => ?_) ?_
    · have account := handed.account key
      rw [count_held, ← List.singleton_append, List.count_append]
      change _ = 0 + _
      omega
    · rw [answered_append, answered_append, answered_respond, answered_respondAll,
        answered_connect, List.append_nil, ← List.filter_append]
      rfl
  | counted asker => exact .of_all_kept fun key => rfl
  | stopped idle =>
    refine .of_settled (o.pending.map Pending.key) (fun key => ?_) (answered_respondAll ..)
    rw [count_held, waiting_idle idle]
    exact (Nat.zero_add _).symm
  | replied relayId reply entry found =>
    obtain ⟨known, rfl⟩ := mem_of_findPending found
    refine .of_settled [entry.key] (fun key => ?_) (answered_respond ..)
    have removed := count_without o.pending key distinct known
    simp only [count_held, Input.asked, waiting, List.count_nil]
    omega
  | progressed relayId event entry found =>
    refine .of_all_kept fun key => ?_
    split <;> simp [Input.asked]
  | passedOver message => exact .of_all_kept fun key => rfl
  | ended idle =>
    refine .of_settled (o.pending.map Pending.key) (fun key => ?_) ?_
    · rw [count_held, waiting_idle idle]
      exact (Nat.zero_add _).symm
    · rw [answered_append, answered_respondAll, answered_connect, List.append_nil]
  | swept next =>
    refine .of_settled ((o.pending.filter fun entry => decide (entry.timeoutAt ≤ now)).map
      Pending.key) (fun key => ?_) (answered_respondAll ..)
    have parted := count_parted o.pending key fun entry => decide (entry.timeoutAt ≤ now)
    simp only [count_held, Input.asked, waiting, List.count_nil]
    omega
  | linked attempt attempts link asking =>
    exact .of_all_kept (by simp [count_held, waiting, asking, Input.asked])
  | retried attempt attempts pause waiting asking again =>
    have none : waiting = none := by
      cases waiting with
      | none => rfl
      | some request => exact absurd again (Nat.not_lt.mpr (single _ _ _ asking))
    exact .of_all_kept (by simp [count_held, Orchestrator.waiting, asking, none, Input.asked])
  | unreachable attempt attempts waiting asking =>
    refine .of_settled (waiting.toList.map Waiting.key) (fun key => ?_)
      (answered_each o Waiting.key waiting.toList .disconnected)
    simp only [count_held, Orchestrator.waiting, asking, Input.asked, List.map_nil, List.count_nil]
    omega
  | resumed attempt attempts due pausing =>
    exact .of_all_kept (by simp [count_held, waiting, pausing, Input.asked])

/-- A known port stays known until it is closed or the orchestrator stops. -/
theorem Outcome.port_known (outcome : o.Outcome now isOpen input after sent) {port : PortId}
    (known : port ∈ o.ports ∨ input = .message (.openPort port))
    (stays : input ≠ .message (.closePort port)) :
    port ∈ after.ports ∨ after.activity = .stopped := by
  cases outcome with
  | opened opened =>
    rcases known with known | same
    · exact .inl (List.mem_cons_of_mem _ known)
    · obtain rfl : opened = port := by simpa using same
      exact .inl List.mem_cons_self
  | closed closed =>
    have apart : port ≠ closed := fun same => stays (by rw [same])
    have before : port ∈ o.ports := by simpa using known
    exact .inl (by simpa [before] using apart)
  | stopped idle => exact .inr rfl
  | forwarded _ link request handed isLive =>
    cases handed <;> simp at known <;> exact .inl known
  | undeliverable _ link request handed isDead =>
    cases handed <;> simp at known <;> exact .inl known
  | _ => simp at known; exact .inl known

end Orchestrator

/-! ## Runs -/

def Message.port? : Message → Option PortId
  | .openPort port | .closePort port | .request port _ _ => some port
  | _ => none

/-- A port is opened before and closed after everything else of it, and its request ids rise. -/
structure Message.MayPrecede (earlier later : Message) : Prop where
  opening : ∀ port, later = .openPort port → earlier.port? ≠ some port
  closing : ∀ port, earlier = .closePort port → later.port? ≠ some port
  rising : ∀ port first second command other, earlier = .request port first command →
    later = .request port second other → first < second

/-- The messages of ports that are used as they should be. -/
structure Orderly (messages : List Message) : Prop where
  ordered : messages.Pairwise Message.MayPrecede
  opened : ∀ message ∈ messages, ∀ port, message.port? = some port → .openPort port ∈ messages

namespace Orderly

/-- An opening that is due comes early enough. -/
theorem opened_prior {earlier later : List Message} (orderly : Orderly (earlier ++ later))
    {message : Message} (member : message ∈ earlier) {port : PortId}
    (about : message.port? = some port) : .openPort port ∈ earlier := by
  obtain ⟨_, _, across⟩ := List.pairwise_append.mp orderly.ordered
  have opened := orderly.opened message (List.mem_append_left _ member) port about
  rcases List.mem_append.mp opened with before | after
  · exact before
  · exact absurd about ((across message member _ after).opening port rfl)

theorem prior {earlier later : List Message} (orderly : Orderly (earlier ++ later)) :
    Orderly earlier where
  ordered := (List.pairwise_append.mp orderly.ordered).1
  opened := fun _ member _ about => orderly.opened_prior member about

theorem asked_distinct {messages : List Message} (orderly : Orderly messages) :
    (messages.filterMap Message.asked?).Nodup := by
  rw [List.Nodup, List.pairwise_filterMap]
  refine orderly.ordered.imp ?_
  intro earlier later order key asked other askedLater same
  subst same
  cases earlier <;> simp [Message.asked?] at asked
  cases later <;> simp [Message.asked?] at askedLater
  obtain ⟨rfl, rfl⟩ : _ ∧ _ := by simpa [← asked] using askedLater
  exact absurd (order.rising _ _ _ _ _ rfl rfl) (Nat.lt_irrefl _)

end Orderly

/-- All requests the ports have asked, in order. -/
def asked (turns : List Turn) : List RequestKey := (taken turns).filterMap Message.asked?

/-- All answers the orchestrator has sent, in order. -/
def answers (turns : List Turn) : List RequestKey := turns.flatMap fun turn => answered turn.sent

theorem asked_append (turns : List Turn) (turn : Turn) :
    asked (turns ++ [turn]) = asked turns ++ turn.input.asked := by
  unfold asked
  rw [taken_append, List.filterMap_append]
  congr 1
  cases turn.input with
  | message message => cases message <;> rfl
  | _ => rfl

theorem answers_append (turns : List Turn) (turn : Turn) :
    answers (turns ++ [turn]) = answers turns ++ answered turn.sent := by
  simp [answers]

namespace Orchestrator.Run

variable {config : RelayConfig} {started : Nat} {turns : List Turn} {o : Orchestrator}

theorem port_known (run : Run config started turns o) {port : PortId}
    (opened : .openPort port ∈ taken turns) (stays : .closePort port ∉ taken turns) :
    port ∈ o.ports ∨ o.activity = .stopped := by
  induction run with
  | start => simp [taken] at opened
  | turn turns turn run expected induction =>
    rw [taken_append] at opened stays
    have notClosed : turn.input ≠ .message (.closePort port) := by
      intro same
      exact stays (List.mem_append_right _ (by simp [same, Input.message?]))
    refine (turn.outcome expected).port_known ?_ notClosed
    rcases List.mem_append.mp opened with before | last
    · rcases induction before (fun closed => stays (List.mem_append_left _ closed)) with
        known | stopped
      · exact .inl known
      · exact absurd expected (not_expects_of_stopped stopped _)
    · right
      cases kind : turn.input <;> simp_all [Input.message?]

/-- No request is answered more often than it was asked. -/
theorem answers_le (run : Run config started turns o) (key : RequestKey) :
    o.held.count key + (answers turns).count key ≤ (asked turns).count key := by
  induction run with
  | start => simp [Orchestrator.start, held, waiting, answers]
  | turn turns turn run expected induction =>
    obtain ⟨dropped, account, _⟩ := (turn.outcome expected).account
      (run.numbered.increasing.sublist run.numbered.inFlight)
      (fun _ _ _ asking => (run.waiting_taken asking).1)
    have step := account key
    rw [asked_append, answers_append, List.count_append, List.count_append]
    omega

/-- On a port that is not closed, what is held and what has been answered is what was asked. -/
theorem account (run : Run config started turns o) (orderly : Orderly (taken turns))
    (key : RequestKey) (stays : .closePort key.1 ∉ taken turns) :
    o.held.count key + (answers turns).count key = (asked turns).count key := by
  induction run with
  | start => simp [Orchestrator.start, held, waiting, answers, asked, taken]
  | turn turns turn run expected induction =>
    have outcome := turn.outcome expected
    obtain ⟨dropped, account, reason⟩ := outcome.account
      (run.numbered.increasing.sublist run.numbered.inFlight)
      (fun _ _ _ asking => (run.waiting_taken asking).1)
    have step := account key
    rw [taken_append] at orderly stays
    have before := induction orderly.prior fun closed => stays (List.mem_append_left _ closed)
    have notClosed : turn.input ≠ .message (.closePort key.1) := by
      intro same
      exact stays (List.mem_append_right _ (by simp [same, Input.message?]))
    rw [asked_append, answers_append, List.count_append, List.count_append]
    by_cases opened : .openPort key.1 ∈ taken turns
    · have known : key.1 ∈ turn.before.ports := by
        rcases run.port_known opened (fun closed => stays (List.mem_append_left _ closed)) with
          known | stopped
        · exact known
        · exact absurd expected (not_expects_of_stopped stopped _)
      have kept : dropped.count key = 0 := by
        rw [List.count_eq_zero]
        intro member
        rcases reason key member with unknown | closed
        · exact unknown known
        · exact notClosed closed
      omega
    · -- nothing of the port has come before its opening, so there is nothing to account for
      have unasked : (asked (turns ++ [turn])).count key = 0 := by
        rw [List.count_eq_zero]
        intro member
        obtain ⟨message, came, same⟩ := List.mem_filterMap.mp member
        obtain ⟨command, rfl⟩ := Message.asked?_eq same
        rw [taken_append] at came
        rcases List.mem_append.mp came with before | last
        · exact opened (orderly.opened_prior before rfl)
        · rcases List.mem_append.mp (orderly.opened _ came key.1 rfl) with before | other
          · exact opened before
          · rw [Option.mem_toList] at last other
            cases last.symm.trans other
      have bound := (Run.turn turns turn run expected).answers_le key
      rw [asked_append, answers_append, List.count_append, List.count_append] at bound
      rw [asked_append, List.count_append] at unasked
      omega

end Orchestrator.Run

end BrowserScript.Relay

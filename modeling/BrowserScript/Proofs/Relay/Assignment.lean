import BrowserScript.Proofs.Lists
import BrowserScript.Proofs.Relay.Turn
import Mathlib.Data.List.Nodup

/-!
# What a relay id stands for

A request that goes to the worker gets a relay id, and an entry that says whose request it is. The
ids of all entries ever made increase, and what the worker sends is passed on only through the
entry of its id.
-/

set_option autoImplicit false

namespace BrowserScript.Relay

/-- A request as the ports know it: request ids are scoped to their port. -/
abbrev RequestKey := PortId × RequestId

def Pending.key (entry : Pending) : RequestKey := (entry.port, entry.request)

def Waiting.key (request : Waiting) : RequestKey := (request.port, request.request)

def LinkMessage.relayId : LinkMessage → RelayId
  | .response relayId _ | .progress relayId _ => relayId

/-- A message of the worker as the port gets it. -/
def LinkMessage.addressed (request : RequestId) : LinkMessage → PortMessage
  | .response _ reply => .response request (.ok reply)
  | .progress _ event => .progress request event

/-- The message carries a reply or a progress event. -/
def PortMessage.IsFromWorker : PortMessage → Prop
  | .response _ (.ok _) | .progress _ _ => True
  | .response _ (.error _) => False

def Input.message? : Input → Option Message
  | .message taken => some taken
  | _ => none

/-- The messages of the ports that have been taken in, in order. -/
def taken (turns : List Turn) : List Message := turns.filterMap fun turn => turn.input.message?

/-- The entries a turn makes. -/
def Turn.assigned (turn : Turn) : List Pending :=
  turn.after.pending.filter fun entry => decide (turn.before.lastRelayId < entry.relayId)

/-- All entries ever made, in order. -/
def assignments (turns : List Turn) : List Pending := turns.flatMap Turn.assigned

namespace Orchestrator

variable {o after : Orchestrator} {now : Nat} {isOpen : LinkId → Bool} {input : Input}
  {sent : List Sending}

theorem mem_respond {port target : PortId} {request : RequestId} {message : PortMessage}
    {result : Except RelayError Reply}
    (member : .toPort target message ∈ o.respond port request result) :
    target = port ∧ message = .response request result := by
  unfold respond at member
  split at member
  · simpa using member
  · simp at member

theorem mem_respondAll {target : PortId} {entries : List Pending} {message : PortMessage}
    {error : RelayError} (member : .toPort target message ∈ o.respondAll entries error) :
    ∃ entry ∈ entries, target = entry.port ∧ message = .response entry.request (.error error) := by
  obtain ⟨entry, known, answer⟩ := List.mem_flatMap.mp member
  exact ⟨entry, known, mem_respond answer⟩

theorem mem_of_findPending {relayId : RelayId} {entry : Pending}
    (found : o.findPending relayId = some entry) :
    entry ∈ o.pending ∧ entry.relayId = relayId := by
  unfold findPending at found
  have number := List.find?_some found
  exact ⟨List.mem_of_find?_eq_some found, by simpa using number⟩

/-- A command is refused for one reason only. -/
theorem prepare_error {command : Command} {error : RelayError}
    (refused : o.prepare command = .error error) : ∃ text, error = .invalidCommand text := by
  unfold prepare at refused
  dsimp only at refused
  split at refused
  · exact ⟨_, (Except.error.inj refused).symm⟩
  · cases refused

/-! ## What one turn does to the entries -/

/-- Entries are only dropped, or one is made for the request that is handed to the worker under the
next number. -/
theorem Outcome.entries (outcome : o.Outcome now isOpen input after sent) :
    (after.pending.Sublist o.pending ∧ o.lastRelayId ≤ after.lastRelayId) ∨
      ∃ link request, o.Hands input link request ∧
        after.pending = o.pending ++ [o.entryFor now request] ∧
        after.lastRelayId = o.lastRelayId + 1 ∧
        sent = [.toWorker link ⟨o.lastRelayId + 1, request.command⟩] := by
  cases outcome with
  | forwarded _ link request handed isLive => exact .inr ⟨link, request, handed, rfl, rfl, rfl⟩
  | undeliverable _ link request handed isDead =>
    exact .inl ⟨List.nil_sublist _, Nat.le_succ _⟩
  | closed port => exact .inl ⟨List.filter_sublist, Nat.le_refl _⟩
  | replied relayId reply entry found => exact .inl ⟨List.filter_sublist, Nat.le_refl _⟩
  | swept next => exact .inl ⟨List.filter_sublist, Nat.le_refl _⟩
  | stopped idle => exact .inl ⟨List.nil_sublist _, Nat.le_refl _⟩
  | ended idle => exact .inl ⟨List.nil_sublist _, Nat.le_refl _⟩
  | _ => exact .inl ⟨List.Sublist.refl _, Nat.le_refl _⟩

theorem Outcome.config_eq (outcome : o.Outcome now isOpen input after sent) :
    after.config = o.config := by
  cases outcome <;> rfl

/-- What comes from the worker reaches a port only through the entry of its relay id. -/
theorem Outcome.from_worker (outcome : o.Outcome now isOpen input after sent) {port : PortId}
    {message : PortMessage} (reached : .toPort port message ∈ sent)
    (carried : message.IsFromWorker) :
    ∃ origin, input = .fromWorker origin ∧ ∃ entry ∈ o.pending,
      entry.relayId = origin.relayId ∧ entry.port = port ∧
        message = origin.addressed entry.request := by
  cases outcome with
  | replied relayId reply entry found =>
    obtain ⟨rfl, rfl⟩ := mem_respond reached
    obtain ⟨known, number⟩ := mem_of_findPending found
    exact ⟨.response relayId reply, rfl, entry, known, number, rfl, rfl⟩
  | progressed relayId event entry found =>
    obtain ⟨known, number⟩ := mem_of_findPending found
    split at reached
    · obtain ⟨rfl, rfl⟩ : port = entry.port ∧ message = .progress entry.request event := by
        simpa using reached
      exact ⟨.progress relayId event, rfl, entry, known, number, rfl, rfl⟩
    · simp at reached
  | refused target request command error reason =>
    obtain ⟨rfl, rfl⟩ := mem_respond reached
    exact carried.elim
  | undeliverable _ link request handed isDead =>
    simp only [List.mem_append, List.mem_singleton, reduceCtorEq, or_false] at reached
    rcases reached with own | others
    · obtain ⟨rfl, rfl⟩ := mem_respond own
      exact carried.elim
    · obtain ⟨entry, known, rfl, rfl⟩ := mem_respondAll others
      exact carried.elim
  | stopped idle =>
    obtain ⟨entry, known, rfl, rfl⟩ := mem_respondAll reached
    exact carried.elim
  | ended idle =>
    simp only [List.mem_append, List.mem_singleton, reduceCtorEq, or_false] at reached
    obtain ⟨entry, known, rfl, rfl⟩ := mem_respondAll reached
    exact carried.elim
  | swept next =>
    obtain ⟨entry, known, rfl, rfl⟩ := mem_respondAll reached
    exact carried.elim
  | unreachable attempt attempts waiting asking =>
    obtain ⟨request, known, answer⟩ := List.mem_flatMap.mp reached
    obtain ⟨rfl, rfl⟩ := mem_respond answer
    exact carried.elim
  | _ => simp at reached

/-- A request that waits for a link does so with the last attempt, and has just been prepared. -/
theorem Outcome.waiting_prepared (outcome : o.Outcome now isOpen input after sent)
    {attempt attempts : Nat}
    {request : Waiting} (asking : after.activity = .connecting attempt attempts (some request)) :
    o.activity = .connecting attempt attempts (some request) ∨
      attempts ≤ attempt ∧ ∃ command,
        input = .message (.request request.port request.request command) ∧
          o.prepare command = .ok request.command := by
  cases outcome with
  | asked port id command prepared ready idle =>
    obtain ⟨rfl, rfl, rfl⟩ : 1 = attempt ∧ 1 = attempts ∧ ⟨port, id, prepared⟩ = request := by
      simpa using asking
    exact .inr ⟨Nat.le_refl _, command, rfl, ready⟩
  | undeliverable _ link request handed isDead => simp [lost] at asking
  | ended idle => simp [lost] at asking
  | opened port => exact .inl asking
  | closed port => exact .inl asking
  | refused port request command error reason => exact .inl asking
  | counted asker => exact .inl asking
  | replied relayId reply entry found => exact .inl asking
  | progressed relayId event entry found => exact .inl asking
  | passedOver message => exact .inl asking
  | swept next => exact .inl asking
  | _ => simp at asking

end Orchestrator

/-! ## Runs -/

/-- The ids of all entries ever made increase, and what is in flight is among them. -/
structure Numbered (given : List Pending) (o : Orchestrator) : Prop where
  increasing : given.Pairwise fun earlier later => earlier.relayId < later.relayId
  bounded : ∀ entry ∈ given, entry.relayId ≤ o.lastRelayId
  inFlight : o.pending.Sublist given

theorem Numbered.unique {given : List Pending} {o : Orchestrator} (numbered : Numbered given o)
    {left right : Pending} (leftGiven : left ∈ given) (rightGiven : right ∈ given)
    (same : left.relayId = right.relayId) : left = right := by
  have distinct : (given.map Pending.relayId).Nodup := by
    rw [List.Nodup, List.pairwise_map]
    exact numbered.increasing.imp Nat.ne_of_lt
  exact List.inj_on_of_nodup_map distinct leftGiven rightGiven same

/-- A turn either makes no entry, or hands a request to the worker and makes the entry for it. -/
theorem Turn.assigned_cases (turn : Turn)
    (outcome : turn.before.Outcome turn.now turn.isOpen turn.input turn.after turn.sent)
    (bounded : ∀ entry ∈ turn.before.pending, entry.relayId ≤ turn.before.lastRelayId) :
    (turn.assigned = [] ∧ turn.after.pending.Sublist turn.before.pending ∧
        turn.before.lastRelayId ≤ turn.after.lastRelayId) ∨
      ∃ link request, turn.before.Hands turn.input link request ∧
        turn.assigned = [turn.before.entryFor turn.now request] ∧
        turn.after.pending = turn.before.pending ++ turn.assigned ∧
        turn.after.lastRelayId = turn.before.lastRelayId + 1 ∧
        turn.sent = [.toWorker link ⟨turn.before.lastRelayId + 1, request.command⟩] := by
  have old : turn.before.pending.filter
      (fun entry => decide (turn.before.lastRelayId < entry.relayId)) = [] := by
    rw [List.filter_eq_nil_iff]
    intro entry known
    simpa using bounded entry known
  rcases outcome.entries with ⟨dropped, grows⟩ | ⟨link, request, handed, made, next, sends⟩
  · left
    refine ⟨?_, dropped, grows⟩
    have rest := dropped.filter fun entry => decide (turn.before.lastRelayId < entry.relayId)
    rw [old] at rest
    exact List.eq_nil_of_sublist_nil rest
  · right
    have assigned : turn.assigned = [turn.before.entryFor turn.now request] := by
      unfold Turn.assigned
      rw [made, List.filter_append, old]
      simp [Orchestrator.entryFor]
    exact ⟨link, request, handed, assigned, by rw [made, assigned], next, sends⟩

theorem assignments_append (turns : List Turn) (turn : Turn) :
    assignments (turns ++ [turn]) = assignments turns ++ turn.assigned := by
  simp [assignments]

theorem taken_append (turns : List Turn) (turn : Turn) :
    taken (turns ++ [turn]) = taken turns ++ turn.input.message?.toList :=
  filterMap_snoc turns turn

namespace Orchestrator.Run

variable {config : RelayConfig} {started : Nat} {turns : List Turn} {o : Orchestrator}

theorem config_eq (run : Run config started turns o) : o.config = config := by
  induction run with
  | start => rfl
  | turn turns turn run expected induction =>
    rw [(turn.outcome expected).config_eq]
    exact induction

theorem numbered (run : Run config started turns o) : Numbered (assignments turns) o := by
  induction run with
  | start => exact ⟨.nil, by simp [assignments], .refl _⟩
  | turn turns turn run expected induction =>
    have bounded := fun entry known => induction.bounded entry (induction.inFlight.subset known)
    rw [assignments_append]
    rcases turn.assigned_cases (turn.outcome expected) bounded with
      ⟨none, dropped, grows⟩ | ⟨link, request, handed, one, made, next, sends⟩
    · rw [none, List.append_nil]
      refine ⟨induction.increasing, ?_, dropped.trans induction.inFlight⟩
      intro entry given
      exact Nat.le_trans (induction.bounded entry given) grows
    · refine ⟨?_, ?_, ?_⟩
      · rw [one, List.pairwise_append]
        refine ⟨induction.increasing, List.pairwise_singleton _ _, ?_⟩
        intro entry given last isLast
        rw [List.mem_singleton.mp isLast]
        exact Nat.lt_succ_of_le (induction.bounded entry given)
      · intro entry given
        rw [next]
        rcases List.mem_append.mp given with earlier | last
        · exact Nat.le_succ_of_le (induction.bounded entry earlier)
        · rw [one, List.mem_singleton] at last
          rw [last]
          exact Nat.le_refl _
      · rw [made]
        exact induction.inFlight.append (.refl _)

theorem assigned_cases (run : Run config started turns o) {earlier later : List Turn} {turn : Turn}
    (split : turns = earlier ++ turn :: later) :
    (turn.assigned = [] ∧ turn.after.pending.Sublist turn.before.pending ∧
        turn.before.lastRelayId ≤ turn.after.lastRelayId) ∨
      ∃ link request, turn.before.Hands turn.input link request ∧
        turn.assigned = [turn.before.entryFor turn.now request] ∧
        turn.after.pending = turn.before.pending ++ turn.assigned ∧
        turn.after.lastRelayId = turn.before.lastRelayId + 1 ∧
        turn.sent = [.toWorker link ⟨turn.before.lastRelayId + 1, request.command⟩] := by
  obtain ⟨past, expected⟩ := run.before_turn earlier later turn split
  apply turn.assigned_cases (turn.outcome expected)
  intro entry known
  exact past.numbered.bounded entry (past.numbered.inFlight.subset known)

/-- A request that waits for a link has been taken from a port. -/
theorem waiting_taken (run : Run config started turns o) {attempt attempts : Nat}
    {request : Waiting} (asking : o.activity = .connecting attempt attempts (some request)) :
    attempts ≤ attempt ∧ ∃ command,
      .request request.port request.request command ∈ taken turns ∧
        o.prepare command = .ok request.command := by
  induction run with
  | start => simp [Orchestrator.start] at asking
  | turn turns turn run expected induction =>
    have outcome := turn.outcome expected
    have prepares : ∀ command, turn.after.prepare command = turn.before.prepare command := by
      intro command
      unfold prepare
      rw [outcome.config_eq]
    rw [taken_append]
    rcases outcome.waiting_prepared asking with before | ⟨last, command, same, prepared⟩
    · obtain ⟨last, command, member, prepared⟩ := induction before
      exact ⟨last, command, List.mem_append_left _ member, by rw [prepares, prepared]⟩
    · refine ⟨last, command, List.mem_append_right _ ?_, by rw [prepares, prepared]⟩
      rw [same]
      simp [Input.message?]

/-- Every entry stands for a request taken from a port: its command, prepared, is what the worker
gets under the relay id, and its time limit counts from then. -/
theorem assigned_origin (run : Run config started turns o) {earlier later : List Turn}
    {turn : Turn} (split : turns = earlier ++ turn :: later) {entry : Pending}
    (assigned : entry ∈ turn.assigned) :
    ∃ link command prepared,
      .request entry.port entry.request command ∈ taken (earlier ++ [turn]) ∧
        turn.before.prepare command = .ok prepared ∧
        turn.sent = [.toWorker link ⟨entry.relayId, prepared⟩] ∧
        entry.timeoutAt = turn.now + config.timeout := by
  obtain ⟨past, expected⟩ := run.before_turn earlier later turn split
  rw [taken_append]
  rcases run.assigned_cases split with ⟨none, _, _⟩ | ⟨link, request, handed, one, _, _, sends⟩
  · rw [none] at assigned
    cases assigned
  · rw [one, List.mem_singleton] at assigned
    subst assigned
    have limit : turn.now + turn.before.config.timeout = turn.now + config.timeout := by
      rw [past.config_eq]
    generalize kind : turn.input = input at handed
    cases handed with
    | fresh port id command prepared link ready linked idle =>
      refine ⟨link, command, prepared, List.mem_append_right _ ?_, ready, sends, limit⟩
      simp [Input.message?, entryFor]
    | kept attempt attempts link request asking =>
      obtain ⟨_, command, member, ready⟩ := past.waiting_taken asking
      exact ⟨link, command, request.command, List.mem_append_left _ member, ready, sends, limit⟩

/-- What a turn passes on from the worker was carried under a relay id that an earlier turn gave to
exactly the request it is passed on for. -/
theorem passed_on (run : Run config started turns o) {earlier later : List Turn} {turn : Turn}
    (split : turns = earlier ++ turn :: later) {port : PortId} {message : PortMessage}
    (reached : .toPort port message ∈ turn.sent) (carried : message.IsFromWorker) :
    ∃ origin, turn.input = .fromWorker origin ∧ ∃ entry ∈ assignments earlier,
      entry.relayId = origin.relayId ∧ entry.port = port ∧
        message = origin.addressed entry.request := by
  obtain ⟨past, expected⟩ := run.before_turn earlier later turn split
  obtain ⟨origin, same, entry, known, number, target, form⟩ :=
    (turn.outcome expected).from_worker reached carried
  exact ⟨origin, same, entry, past.numbered.inFlight.subset known, number, target, form⟩

end Orchestrator.Run

end BrowserScript.Relay

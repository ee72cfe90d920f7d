import BrowserScript.Proofs.Relay.Links

/-!
# What is passed on for one request

The orchestrator passes on to a request, in their order, the messages of the worker under the relay
id of that request, and it leaves none out while the request is in flight. Main definitions:
`passedOn`, `heardUnder`, `Solicited`. Main results: `Orchestrator.Run.assigned_once`,
`Orchestrator.Run.passes_on_in_order`.
-/

set_option autoImplicit false

namespace BrowserScript.Relay

/-! ## What is heard and what is passed on -/

/-- The message of the worker that an input is. -/
def Input.heard? : Input → Option LinkMessage
  | .fromWorker said => some said
  | _ => none

/-- The messages of the worker that have been taken in, in order. -/
def heard (turns : List Turn) : List LinkMessage := turns.filterMap fun turn => turn.input.heard?

/-- The messages among some that are about one relay id. -/
def under (relayId : RelayId) (messages : List LinkMessage) : List LinkMessage :=
  messages.filter fun message => message.relayId == relayId

/-- The messages of the worker under one relay id that have been taken in, in order. -/
def heardUnder (relayId : RelayId) (turns : List Turn) : List LinkMessage :=
  under relayId (heard turns)

/-- The message brings a request something from the worker. -/
def PortMessage.brings (request : RequestId) : PortMessage → Bool
  | .response target (.ok _) | .progress target _ => target == request
  | .response _ (.error _) => false

/-- What has ever been sent to a port, in order. -/
def sentTo (port : PortId) (turns : List Turn) : List PortMessage :=
  turns.flatMap fun turn => addressedTo port turn.sent

/-- What a list of sendings passes on from the worker to one request. -/
def passes (key : RequestKey) (sent : List Sending) : List PortMessage :=
  (addressedTo key.1 sent).filter fun message => message.brings key.2

/-- What has been passed on from the worker to one request, in order. -/
def passedOn (key : RequestKey) (turns : List Turn) : List PortMessage :=
  (sentTo key.1 turns).filter fun message => message.brings key.2

theorem under_append (relayId : RelayId) (first second : List LinkMessage) :
    under relayId (first ++ second) = under relayId first ++ under relayId second :=
  List.filter_append _ _

theorem under_eq_nil {relayId : RelayId} {messages : List LinkMessage}
    (apart : ∀ message ∈ messages, message.relayId ≠ relayId) : under relayId messages = [] := by
  refine List.filter_eq_nil_iff.mpr fun message member same => ?_
  exact apart message member (beq_iff_eq.mp same)

theorem heard_append (turns : List Turn) (turn : Turn) :
    heard (turns ++ [turn]) = heard turns ++ turn.input.heard?.toList :=
  filterMap_snoc turns turn

theorem heardUnder_append (relayId : RelayId) (turns : List Turn) (turn : Turn) :
    heardUnder relayId (turns ++ [turn]) =
      heardUnder relayId turns ++ under relayId turn.input.heard?.toList := by
  rw [heardUnder, heard_append, under_append]
  rfl

theorem sentTo_append (port : PortId) (turns : List Turn) (turn : Turn) :
    sentTo port (turns ++ [turn]) = sentTo port turns ++ addressedTo port turn.sent := by
  simp [sentTo]

theorem passedOn_append (key : RequestKey) (turns : List Turn) (turn : Turn) :
    passedOn key (turns ++ [turn]) = passedOn key turns ++ passes key turn.sent := by
  rw [passedOn, sentTo_append, List.filter_append]
  rfl

theorem PortMessage.isFromWorker_of_brings {request : RequestId} {message : PortMessage}
    (brings : message.brings request = true) : message.IsFromWorker := by
  cases message with
  | response target result => cases result with
    | ok reply => trivial
    | error error => cases brings
  | progress target event => trivial

theorem LinkMessage.brings_addressed {target request : RequestId} (message : LinkMessage) :
    (message.addressed target).brings request = (target == request) := by
  cases message <;> rfl

theorem passes_toPort (key : RequestKey) {message : PortMessage}
    (brings : message.brings key.2 = true) : passes key [.toPort key.1 message] = [message] := by
  simp [passes, addressedTo, brings]

/-! ## One turn -/

namespace Orchestrator

variable {o after : Orchestrator} {now : Nat} {isOpen : LinkId → Bool} {input : Input}
  {sent : List Sending}

theorem known_of_respond {port target : PortId} {request : RequestId} {message : PortMessage}
    {result : Except RelayError Reply}
    (member : .toPort target message ∈ o.respond port request result) : target ∈ o.ports := by
  obtain ⟨rfl, _⟩ := mem_respond member
  unfold respond at member
  split at member
  · next known => exact List.contains_iff_mem.mp known
  · cases member

theorem known_of_respondAll {target : PortId} {entries : List Pending} {message : PortMessage}
    {error : RelayError} (member : .toPort target message ∈ o.respondAll entries error) :
    target ∈ o.ports := by
  obtain ⟨_, _, answer⟩ := List.mem_flatMap.mp member
  exact known_of_respond answer

/-- Only a known port is sent anything. -/
theorem Outcome.target_known (outcome : o.Outcome now isOpen input after sent) {port : PortId}
    {message : PortMessage} (reached : .toPort port message ∈ sent) : port ∈ o.ports := by
  cases outcome with
  | refused target request command error reason => exact known_of_respond reached
  | undeliverable _ link request handed isDead =>
    simp only [List.mem_append, List.mem_singleton, reduceCtorEq, or_false] at reached
    exact reached.elim known_of_respond known_of_respondAll
  | stopped idle => exact known_of_respondAll reached
  | replied relayId reply entry found => exact known_of_respond reached
  | progressed relayId event entry found =>
    split at reached
    · next known =>
      obtain ⟨rfl, _⟩ : port = entry.port ∧ _ := by simpa using reached
      exact List.contains_iff_mem.mp known
    · cases reached
  | ended idle =>
    simp only [List.mem_append, List.mem_singleton, reduceCtorEq, or_false] at reached
    exact known_of_respondAll reached
  | swept next => exact known_of_respondAll reached
  | unreachable attempt attempts waiting asking =>
    obtain ⟨_, _, answer⟩ := List.mem_flatMap.mp reached
    exact known_of_respond answer
  | _ => simp at reached

/-- A port becomes known when it is opened. -/
theorem Outcome.port_opened (outcome : o.Outcome now isOpen input after sent) {port : PortId}
    (known : port ∈ after.ports) : port ∈ o.ports ∨ input = .message (.openPort port) := by
  cases outcome with
  | opened opened =>
    rcases List.mem_cons.mp known with rfl | before
    · exact .inr rfl
    · exact .inl before
  | closed closed => exact .inl (List.mem_filter.mp known).1
  | stopped idle => cases known
  | _ => exact .inl known

/-- A request that waits for a link has waited before, or has just been asked. -/
theorem Outcome.waiting_le (outcome : o.Outcome now isOpen input after sent) (key : RequestKey) :
    (after.waiting.map Waiting.key).count key ≤
      (o.waiting.map Waiting.key).count key + input.asked.count key := by
  cases outcome with
  | asked port request command prepared ready idle =>
    simp [waiting, Waiting.key, Input.asked, Message.asked?]
  | forwarded _ link request handed isLive => exact Nat.zero_le _
  | undeliverable _ link request handed isDead => exact Nat.zero_le _
  | stopped idle => exact Nat.zero_le _
  | ended idle => exact Nat.zero_le _
  | linked attempt attempts link asking => exact Nat.zero_le _
  | retried attempt attempts pause waiting asking again => exact Nat.zero_le _
  | unreachable attempt attempts waiting asking => exact Nat.zero_le _
  | resumed attempt attempts due pausing => exact Nat.zero_le _
  | _ => exact Nat.le_add_right _ _

/-- What is passed on to a request comes from a message of the worker under the relay id of an entry
for that request. -/
theorem Outcome.of_passes (outcome : o.Outcome now isOpen input after sent) {key : RequestKey}
    (some : passes key sent ≠ []) :
    ∃ origin, input = .fromWorker origin ∧ ∃ entry ∈ o.pending,
      entry.relayId = origin.relayId ∧ entry.key = key := by
  obtain ⟨message, member⟩ := List.exists_mem_of_ne_nil _ some
  obtain ⟨addressed, brings⟩ := List.mem_filter.mp member
  obtain ⟨origin, same, entry, held, number, target, form⟩ :=
    outcome.from_worker (mem_addressedTo.mp addressed) (PortMessage.isFromWorker_of_brings brings)
  rw [form, LinkMessage.brings_addressed] at brings
  exact ⟨origin, same, entry, held, number, Prod.ext target (beq_iff_eq.mp brings)⟩

/-- A message of the worker goes to the port of the entry of its relay id, if that is known. -/
theorem receiveFromWorker_sent {message : LinkMessage} {entry : Pending}
    (found : o.findPending message.relayId = some entry) (known : entry.port ∈ o.ports) :
    (o.receiveFromWorker message).2 = [.toPort entry.port (message.addressed entry.request)] := by
  have contains : o.ports.contains entry.port = true := List.contains_iff_mem.mpr known
  cases message with
  | response relayId reply =>
    change o.findPending relayId = some entry at found
    simp only [receiveFromWorker, found, respond, contains, if_true]
    rfl
  | progress relayId event =>
    change o.findPending relayId = some entry at found
    simp only [receiveFromWorker, found, contains, if_true]
    rfl

theorem findPending_of_mem {entry : Pending} (held : entry ∈ o.pending)
    (unique : ∀ other ∈ o.pending, other.relayId = entry.relayId → other = entry) :
    o.findPending entry.relayId = some entry := by
  cases found : o.findPending entry.relayId with
  | none =>
    have apart := List.find?_eq_none.mp found entry held
    simp at apart
  | some other =>
    obtain ⟨known, same⟩ := mem_of_findPending found
    rw [unique other known same]

end Orchestrator

/-! ## Runs -/

/-- The worker speaks only under relay ids that it has been given. -/
def Solicited (turns : List Turn) : Prop :=
  ∀ earlier turn later, turns = earlier ++ turn :: later → ∀ message ∈ turn.input.heard?,
    ∃ entry ∈ assignments earlier, entry.relayId = message.relayId

theorem Solicited.prior {turns : List Turn} {turn : Turn}
    (solicited : Solicited (turns ++ [turn])) : Solicited turns := by
  intro earlier other later split message said
  exact solicited earlier other (later ++ [turn]) (by rw [split]; simp) message said

theorem Solicited.snoc {turns : List Turn} {turn : Turn} (solicited : Solicited turns)
    (given : ∀ message ∈ turn.input.heard?,
      ∃ entry ∈ assignments turns, entry.relayId = message.relayId) :
    Solicited (turns ++ [turn]) := by
  intro earlier other later split message said
  rcases List.eq_nil_or_concat later with rfl | ⟨rest, final, rfl⟩
  · obtain ⟨rfl, same⟩ := List.append_inj' split rfl
    obtain rfl := List.singleton_inj.mp same
    exact given message said
  · have shorter : turns ++ [turn] = (earlier ++ other :: rest) ++ [final] := by
      rw [split]
      simp
    exact solicited earlier other rest (List.append_inj' shorter rfl).1 message said

theorem Solicited.given {turns : List Turn} (solicited : Solicited turns) {message : LinkMessage}
    (said : message ∈ heard turns) :
    ∃ entry ∈ assignments turns, entry.relayId = message.relayId := by
  obtain ⟨turn, member, same⟩ := List.mem_filterMap.mp said
  obtain ⟨earlier, later, split⟩ := List.append_of_mem member
  obtain ⟨entry, given, number⟩ := solicited earlier turn later split message same
  refine ⟨entry, ?_, number⟩
  rw [split]
  unfold assignments at given ⊢
  rw [List.flatMap_append]
  exact List.mem_append_left _ given

/-- Nothing has been heard under a relay id that no entry has. -/
theorem Solicited.heardUnder_nil {turns : List Turn} (solicited : Solicited turns)
    {relayId : RelayId} (fresh : ∀ entry ∈ assignments turns, entry.relayId ≠ relayId) :
    heardUnder relayId turns = [] := by
  refine under_eq_nil fun message said same => ?_
  obtain ⟨entry, given, number⟩ := solicited.given said
  exact fresh entry given (number.trans same)

namespace Orchestrator.Run

variable {config : RelayConfig} {started : Nat} {turns : List Turn} {o : Orchestrator}

/-- A known port has been opened. -/
theorem port_announced (run : Run config started turns o) {port : PortId} (known : port ∈ o.ports) :
    .openPort port ∈ taken turns := by
  induction run with
  | start => cases known
  | turn turns turn run expected induction =>
    rw [taken_append]
    rcases (turn.outcome expected).port_opened known with before | same
    · exact List.mem_append_left _ (induction before)
    · exact List.mem_append_right _ (by rw [same]; exact List.mem_singleton.mpr rfl)

/-- Only a port that has been opened has been sent anything. -/
theorem sentTo_nil (run : Run config started turns o) {port : PortId}
    (unknown : .openPort port ∉ taken turns) : sentTo port turns = [] := by
  induction run with
  | start => rfl
  | turn turns turn run expected induction =>
    rw [taken_append] at unknown
    rw [sentTo_append, induction fun before => unknown (List.mem_append_left _ before),
      List.nil_append, List.eq_nil_iff_forall_not_mem]
    intro message member
    have known := (turn.outcome expected).target_known (mem_addressedTo.mp member)
    exact unknown (List.mem_append_left _ (run.port_announced known))

/-- For one request no more entries are made than it was asked. -/
theorem assigned_le (run : Run config started turns o) (key : RequestKey) :
    ((assignments turns).map Pending.key).count key + (o.waiting.map Waiting.key).count key ≤
      (asked turns).count key := by
  induction run with
  | start => exact Nat.le_refl 0
  | turn turns turn run expected induction =>
    have outcome := turn.outcome expected
    have bounded := fun entry held =>
      run.numbered.bounded entry (run.numbered.inFlight.subset held)
    rw [assignments_append, asked_append, List.map_append, List.count_append, List.count_append]
    rcases turn.assigned_cases outcome bounded with
      ⟨none, _, _⟩ | ⟨link, request, handed, one, _, _, sends⟩
    · have waits := outcome.waiting_le key
      rw [none, List.map_nil, List.count_nil]
      omega
    · -- the requests that have waited get their entries, and none of them waits any more
      have account := handed.account key
      have idle : turn.after.waiting = [] := waiting_idle
        (outcome.toWorker (by rw [sends]; exact List.mem_singleton.mpr rfl)).2.1
      have own : turn.assigned.map Pending.key = [request.key] := by
        rw [one]
        rfl
      rw [own, idle, List.map_nil, List.count_nil]
      omega

/-- A request gets one relay id at most. -/
theorem assigned_once (run : Run config started turns o) (orderly : Orderly (taken turns))
    {left right : Pending} (leftGiven : left ∈ assignments turns)
    (rightGiven : right ∈ assignments turns) (same : left.key = right.key) : left = right := by
  have distinct : ((assignments turns).map Pending.key).Nodup := by
    rw [List.nodup_iff_count_le_one]
    intro key
    have asked := List.nodup_iff_count_le_one.mp orderly.asked_distinct key
    have given := run.assigned_le key
    unfold Relay.asked at given
    omega
  exact List.inj_on_of_nodup_map distinct leftGiven rightGiven same

/-- Every entry stands for a request that a port has made. -/
theorem asked_of_assigned (run : Run config started turns o) {entry : Pending}
    (given : entry ∈ assignments turns) :
    ∃ command, .request entry.port entry.request command ∈ taken turns := by
  obtain ⟨turn, member, assigned⟩ := List.mem_flatMap.mp given
  obtain ⟨earlier, later, split⟩ := List.append_of_mem member
  obtain ⟨_, command, _, asked, _⟩ := run.assigned_origin split assigned
  refine ⟨command, ?_⟩
  rw [split, List.append_cons]
  unfold taken at asked ⊢
  rw [List.filterMap_append]
  exact List.mem_append_left _ asked

/-- Nothing has been passed on to a request without a relay id. -/
theorem passedOn_nil (run : Run config started turns o) {key : RequestKey}
    (none : ∀ entry ∈ assignments turns, entry.key ≠ key) : passedOn key turns = [] := by
  induction run with
  | start => rfl
  | turn turns turn run expected induction =>
    rw [assignments_append] at none
    have before := fun entry given => none entry (List.mem_append_left _ given)
    rw [passedOn_append, induction before, List.nil_append]
    by_contra some
    obtain ⟨_, _, entry, held, _, same⟩ := (turn.outcome expected).of_passes some
    exact before entry (run.numbered.inFlight.subset held) same

/-- A turn passes on to a request in flight what it hears under its relay id. -/
theorem passes_held {turn : Turn} (run : Run config started turns turn.before)
    (orderly : Orderly (taken turns)) (expected : turn.before.Expects turn.input)
    {entry : Pending} (held : entry ∈ turn.before.pending)
    (known : entry.port ∈ turn.before.ports) :
    passes entry.key turn.sent =
      (under entry.relayId turn.input.heard?.toList).map (LinkMessage.addressed entry.request) := by
  have given := run.numbered.inFlight.subset
  have others : (∀ origin, turn.input = .fromWorker origin → origin.relayId ≠ entry.relayId) →
      passes entry.key turn.sent = [] := by
    intro apart
    by_contra some
    obtain ⟨origin, same, other, isHeld, number, key⟩ := (turn.outcome expected).of_passes some
    rw [run.assigned_once orderly (given isHeld) (given held) key] at number
    exact apart origin same number.symm
  cases kind : turn.input with
  | fromWorker message =>
    rw [kind] at others
    by_cases own : message.relayId = entry.relayId
    · have found : turn.before.findPending message.relayId = some entry := by
        rw [own]
        exact findPending_of_mem held fun other isHeld same =>
          run.numbered.unique (given isHeld) (given held) same
      have sent : turn.sent = [.toPort entry.port (message.addressed entry.request)] := by
        unfold Turn.sent
        rw [kind]
        exact receiveFromWorker_sent found known
      have whole : under entry.relayId (Input.fromWorker message).heard?.toList = [message] := by
        simp [under, Input.heard?, own]
      rw [sent, whole]
      exact passes_toPort entry.key (by rw [LinkMessage.brings_addressed]; exact beq_self_eq_true _)
    · rw [others fun origin same => by cases same; exact own]
      simp [under, Input.heard?, own]
  | _ =>
    refine others fun origin same => ?_
    rw [kind] at same
    cases same

/-- A request still in flight on a known port has been so before. -/
theorem held_before {turn : Turn} (run : Run config started turns turn.before)
    (expected : turn.before.Expects turn.input) (orderly : Orderly (taken (turns ++ [turn])))
    {entry : Pending} (given : entry ∈ assignments turns) (held : entry ∈ turn.after.pending)
    (known : entry.port ∈ turn.after.ports) :
    entry ∈ turn.before.pending ∧ entry.port ∈ turn.before.ports := by
  have bounded := fun other isHeld =>
    run.numbered.bounded other (run.numbered.inFlight.subset isHeld)
  constructor
  · rcases turn.assigned_cases (turn.outcome expected) bounded with
      ⟨_, dropped, _⟩ | ⟨_, _, _, one, made, _, _⟩
    · exact dropped.subset held
    · rw [made, one] at held
      rcases List.mem_append.mp held with before | new
      · exact before
      · have old := run.numbered.bounded entry given
        rw [List.mem_singleton.mp new] at old
        exact absurd old (Nat.not_succ_le_self _)
  · rcases (turn.outcome expected).port_opened known with before | opens
    · exact before
    · -- a port is opened before it asks for anything
      obtain ⟨command, asked⟩ := run.asked_of_assigned given
      rw [taken_append, opens] at orderly
      have follows := (List.pairwise_append.mp orderly.ordered).2.2 _ asked _
        (List.mem_singleton.mpr rfl)
      exact absurd rfl (follows.opening entry.port rfl)

/-- What has been passed on to a request are the first of the messages heard under its relay id, in
their order. While the request is in flight and its port is known, they are all. -/
theorem passes_on_in_order (run : Run config started turns o) (orderly : Orderly (taken turns))
    (solicited : Solicited turns) {entry : Pending} (given : entry ∈ assignments turns) :
    passedOn entry.key turns <+:
        (heardUnder entry.relayId turns).map (LinkMessage.addressed entry.request) ∧
      (entry ∈ o.pending → entry.port ∈ o.ports →
        passedOn entry.key turns =
          (heardUnder entry.relayId turns).map (LinkMessage.addressed entry.request)) := by
  induction run with
  | start => cases given
  | turn turns turn run expected induction =>
    have whole := Run.turn turns turn run expected
    have outcome := turn.outcome expected
    have early := orderly
    rw [taken_append] at early
    rw [passedOn_append, heardUnder_append, List.map_append]
    by_cases before : entry ∈ assignments turns
    · obtain ⟨first, all⟩ := induction early.prior solicited.prior before
      by_cases inFlight : entry ∈ turn.before.pending ∧ entry.port ∈ turn.before.ports
      · rw [all inFlight.1 inFlight.2,
          run.passes_held early.prior expected inFlight.1 inFlight.2]
        exact ⟨List.prefix_rfl, fun _ _ => rfl⟩
      · -- what is settled is never in flight again
        have nothing : passes entry.key turn.sent = [] := by
          by_contra some
          obtain ⟨message, member⟩ := List.exists_mem_of_ne_nil _ some
          obtain ⟨_, _, other, held, _, key⟩ := outcome.of_passes some
          obtain rfl :=
            run.assigned_once early.prior (run.numbered.inFlight.subset held) before key
          exact inFlight ⟨held, outcome.target_known
            (mem_addressedTo.mp (List.mem_filter.mp member).1)⟩
        rw [nothing, List.append_nil]
        exact ⟨first.trans (List.prefix_append _ _), fun held known =>
          absurd (run.held_before expected orderly before held known) inFlight⟩
    · -- the entry is new: its relay id and its request have not been used so far
      have unused : ∀ other ∈ assignments turns, other.relayId ≠ entry.relayId ∧
          other.key ≠ entry.key := by
        intro other earlier
        have also : other ∈ assignments (turns ++ [turn]) := by
          rw [assignments_append]
          exact List.mem_append_left _ earlier
        refine ⟨fun same => before ?_, fun same => before ?_⟩
        · exact whole.numbered.unique also given same ▸ earlier
        · exact whole.assigned_once orderly also given same ▸ earlier
      have silent : under entry.relayId turn.input.heard?.toList = [] := by
        refine under_eq_nil fun message said same => ?_
        obtain ⟨other, earlier, number⟩ :=
          solicited turns turn [] rfl message (Option.mem_toList.mp said)
        exact (unused other earlier).1 (number.trans same)
      have nothing : passes entry.key turn.sent = [] := by
        by_contra some
        obtain ⟨_, _, other, held, _, key⟩ := outcome.of_passes some
        exact (unused other (run.numbered.inFlight.subset held)).2 key
      rw [run.passedOn_nil fun other earlier => (unused other earlier).2, nothing, silent,
        solicited.prior.heardUnder_nil fun other earlier => (unused other earlier).1]
      exact ⟨List.prefix_rfl, fun _ _ => rfl⟩

end Orchestrator.Run

end BrowserScript.Relay

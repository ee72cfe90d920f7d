import BrowserScript.Proofs.Relay.Serving
import BrowserScript.Proofs.Relay.Verdict

/-!
# The link in use

What the orchestrator has in flight hangs on the link it uses: there is nothing in flight without a
link, all that is in flight has been forwarded on the present one, and no other link is held on to.
Main definitions: `Orchestrator.Moored`, `Orchestrator.Addressed`, `Traffic.Supplied`. Main results:
`Orchestrator.Run.moored`, `Orchestrator.Run.forwarded`, `Orchestrator.Run.addressed`,
`Traffic.Reaches.unused`, `Traffic.Supplied.used`.
-/

set_option autoImplicit false

namespace BrowserScript.Relay

namespace Orchestrator

variable {o : Orchestrator} {now : Nat} {isOpen : LinkId → Bool} {input : Input} {link : LinkId}
  {request : Waiting}

/-! ## What a turn does with the link -/

/-- A request is put on a live link: it is in flight from then on. -/
theorem Hands.take_live (handed : o.Hands input link request) (isLive : isOpen link = true) :
    o.take now isOpen input =
      ({ o with
          activity := .idle, link := some link, lastRelayId := o.lastRelayId + 1
          pending := o.pending ++ [o.entryFor now request] },
        [.toWorker link ⟨o.lastRelayId + 1, request.command⟩]) := by
  cases handed with
  | fresh port id command prepared _ ready linked idle =>
    simp [take, receive, forward, ready, linked, transmit, isLive, entryFor]
  | kept attempt attempts _ _ asking =>
    simp [take, connected, asking, transmit, isLive, entryFor]

/-- A request is put on a dead link: it is refused, and the link is lost. -/
theorem Hands.take_dead (handed : o.Hands input link request) (isDead : isOpen link = false) :
    o.take now isOpen input =
      ({ o.lost with lastRelayId := o.lastRelayId + 1 },
        o.respond request.port request.request (.error .disconnected) ++
          (o.respondAll o.pending .timeout ++ [.connect])) := by
  cases handed with
  | fresh port id command prepared _ ready linked idle =>
    simp only [take, receive, forward, ready, linked, transmit, isDead]
    rfl
  | kept attempt attempts _ _ asking =>
    simp only [take, connected, asking, transmit, isDead]
    rfl

theorem take_linkEnded :
    o.take now isOpen .linkEnded = (o.lost, o.respondAll o.pending .timeout ++ [.connect]) := rfl

/-- A request that is prepared without a link waits while the connector is called once. -/
theorem take_unlinked {port : PortId} {id : RequestId} {command prepared : Command}
    (ready : o.prepare command = .ok prepared) (unlinked : o.link = none) :
    o.take now isOpen (.message (.request port id command)) =
      ({ o with activity := .connecting 1 1 (some ⟨port, id, prepared⟩) }, [.connect]) := by
  simp [take, receive, forward, ready, unlinked, connect]

theorem take_invalid {port : PortId} {id : RequestId} {command : Command} {error : RelayError}
    (refused : o.prepare command = .error error) :
    o.take now isOpen (.message (.request port id command)) =
      (o, o.respond port id (.error error)) := by
  simp only [take, receive, forward, refused]

/-- A request waits for a link only if there is none. -/
theorem take_waiting {attempt attempts : Nat} (idle : o.activity = .idle) {port : PortId}
    {id : RequestId} {command : Command}
    (asking : (o.take now isOpen (.message (.request port id command))).1.activity =
      .connecting attempt attempts (some request)) : o.link = none := by
  cases linked : o.link with
  | none => rfl
  | some link =>
    exfalso
    cases ready : o.prepare command with
    | error error =>
      rw [take_invalid ready, idle] at asking
      cases asking
    | ok prepared =>
      have handed : o.Hands (.message (.request port id command)) link ⟨port, id, prepared⟩ :=
        .fresh port id command prepared link ready linked idle
      cases live : isOpen link with
      | true =>
        rw [handed.take_live live] at asking
        cases asking
      | false =>
        rw [handed.take_dead live] at asking
        cases asking

/-- How what the orchestrator does and has in flight goes together with its link. -/
structure Moored (o : Orchestrator) : Prop where
  adrift : o.activity ≠ .idle → o.link = none
  empty : o.link = none → o.pending = []

theorem moored_start (config : RelayConfig) (started : Nat) : (start config started).Moored where
  adrift := fun busy => absurd rfl busy
  empty := fun _ => rfl

theorem Moored.take (moored : o.Moored) (expected : o.Expects input) :
    (o.take now isOpen input).1.Moored := by
  have outcome := o.take_outcome now isOpen input expected
  have waiting : ∀ port id command attempt attempts request,
      input = .message (.request port id command) →
      (o.take now isOpen input).1.activity = .connecting attempt attempts (some request) →
        o.link = none := by
    rintro port id command attempt attempts request rfl asking
    exact take_waiting expected asking
  generalize (o.take now isOpen input).1 = after at outcome waiting
  generalize (o.take now isOpen input).2 = sent at outcome
  have fewer : ∀ keep : Pending → Bool, o.link = none → o.pending.filter keep = [] := by
    intro keep unlinked
    rw [moored.empty unlinked, List.filter_nil]
  cases outcome with
  | asked port id command prepared ready idle =>
    have unlinked := waiting port id command 1 1 _ rfl rfl
    exact ⟨fun _ => unlinked, moored.empty⟩
  | forwarded _ used request handed isLive =>
    exact ⟨fun busy => absurd rfl busy, fun unlinked => by cases unlinked⟩
  | undeliverable _ used request handed isDead => exact ⟨fun _ => rfl, fun _ => rfl⟩
  | ended idle => exact ⟨fun _ => rfl, fun _ => rfl⟩
  | stopped idle => exact ⟨fun _ => rfl, fun _ => rfl⟩
  | linked attempt attempts used asking =>
    exact ⟨fun busy => absurd rfl busy, fun unlinked => by cases unlinked⟩
  | closed port => exact ⟨moored.adrift, fewer _⟩
  | replied relayId reply entry found => exact ⟨moored.adrift, fewer _⟩
  | swept next => exact ⟨moored.adrift, fewer _⟩
  | retried attempt attempts pause waits asking again =>
    exact ⟨fun _ => moored.adrift (by simp [asking]), moored.empty⟩
  | unreachable attempt attempts waits asking =>
    exact ⟨fun busy => absurd rfl busy, moored.empty⟩
  | resumed attempt attempts due pausing =>
    exact ⟨fun _ => moored.adrift (by simp [pausing]), moored.empty⟩
  | _ => exact ⟨moored.adrift, moored.empty⟩

/-- A link comes into use when the connector hands it over, and only if there is none. -/
theorem Moored.link_from (moored : o.Moored) (expected : o.Expects input)
    (used : (o.take now isOpen input).1.link = some link) :
    o.link = some link ∨ o.link = none ∧ input = .connected (some link) := by
  have outcome := o.take_outcome now isOpen input expected
  generalize (o.take now isOpen input).1 = after at outcome used
  generalize (o.take now isOpen input).2 = sent at outcome
  cases outcome with
  | forwarded _ other request handed isLive =>
    obtain rfl := Option.some.inj used
    cases handed with
    | fresh port id command prepared _ ready linked idle => exact .inl linked
    | kept attempt attempts _ _ asking => exact .inr ⟨moored.adrift (by simp [asking]), rfl⟩
  | linked attempt attempts other asking =>
    obtain rfl := Option.some.inj used
    exact .inr ⟨moored.adrift (by simp [asking]), rfl⟩
  | undeliverable _ other request handed isDead => cases used
  | ended idle => cases used
  | stopped idle => cases used
  | _ => exact .inl used

end Orchestrator

/-! ## Runs -/

/-- The entry has been forwarded on the link in use, which has been in use ever since. -/
def Orchestrator.Forwarded (o : Orchestrator) (turns : List Turn) (entry : Pending) : Prop :=
  ∃ link, o.link = some link ∧ ∃ earlier turn later, turns = earlier ++ turn :: later ∧
    entry ∈ turn.assigned ∧ (∃ command, turn.sent = [.toWorker link ⟨entry.relayId, command⟩]) ∧
      ∀ other ∈ later, other.before.link = some link

namespace Orchestrator.Run

variable {config : RelayConfig} {started : Nat} {turns : List Turn} {o : Orchestrator}

/-- A run ends as its last turn leaves the orchestrator. -/
theorem last {turn : Turn} (run : Run config started (turns ++ [turn]) o) :
    Run config started turns turn.before ∧ turn.before.Expects turn.input ∧ o = turn.after := by
  generalize split : turns ++ [turn] = whole at run
  cases run with
  | start => simp at split
  | turn others final past expected =>
    obtain ⟨rfl, same⟩ := List.append_inj' split rfl
    obtain rfl := List.singleton_inj.mp same
    exact ⟨past, expected, rfl⟩

theorem moored (run : Run config started turns o) : o.Moored := by
  induction run with
  | start => exact moored_start config started
  | turn turns turn run expected induction => exact induction.take expected

/-- A turn that makes an entry leaves the link in use on which it has put the request. -/
theorem assigned_link {turn : Turn} {link : LinkId} {request : Waiting} {made : List Pending}
    (handed : turn.before.Hands turn.input link request)
    (grows : turn.after.pending = turn.before.pending ++ made) (some : made ≠ []) :
    turn.after.link = .some link := by
  unfold Turn.after at grows ⊢
  cases live : turn.isOpen link with
  | true => rw [handed.take_live live]
  | false =>
    rw [handed.take_dead live] at grows
    exact absurd (List.append_eq_nil_iff.mp grows.symm).2 some

/-- Everything in flight has been forwarded on the link in use. -/
theorem forwarded (run : Run config started turns o) : ∀ entry ∈ o.pending,
    o.Forwarded turns entry := by
  induction run with
  | start => simp [Orchestrator.start]
  | turn turns turn run expected induction =>
    have stays : ∀ entry ∈ turn.before.pending, entry ∈ turn.after.pending →
        turn.after.Forwarded (turns ++ [turn]) entry := by
      intro entry held still
      obtain ⟨link, linked, earlier, origin, later, split, assigned, sent, since⟩ :=
        induction entry held
      have same : turn.after.link = some link := by
        cases used : turn.after.link with
        | none =>
          have nothing : turn.after.pending = [] := (run.moored.take expected).empty used
          rw [nothing] at still
          cases still
        | some other =>
          rcases run.moored.link_from expected used with before | ⟨unlinked, _⟩
          · exact before.symm.trans linked
          · rw [unlinked] at linked
            cases linked
      refine ⟨link, same, earlier, origin, later ++ [turn], by simp [split], assigned, sent, ?_⟩
      intro other member
      rcases List.mem_append.mp member with before | last
      · exact since other before
      · rw [List.mem_singleton.mp last]
        exact linked
    have bounded := fun entry held =>
      run.numbered.bounded entry (run.numbered.inFlight.subset held)
    intro entry held
    rcases turn.assigned_cases (turn.outcome expected) bounded with
      ⟨_, dropped, _⟩ | ⟨link, request, handed, one, made, _, sent⟩
    · exact stays entry (dropped.subset held) held
    · have whole := held
      rw [made] at held
      rcases List.mem_append.mp held with before | new
      · exact stays entry before whole
      · refine ⟨link, assigned_link handed made (by simp [one]), turns, turn, [], rfl, new,
          ⟨request.command, ?_⟩, by simp⟩
        rw [one] at new
        rw [sent, List.mem_singleton.mp new]
        rfl

end Orchestrator.Run

/-! ## Whom the answers are for -/

theorem Orderly.before_split {earlier later : List Turn}
    (orderly : Orderly (taken (earlier ++ later))) : Orderly (taken earlier) := by
  unfold taken at orderly
  rw [List.filterMap_append] at orderly
  exact orderly.prior

namespace Orchestrator

variable {o : Orchestrator}

/-- Everything unanswered is for a known port. -/
structure Addressed (o : Orchestrator) : Prop where
  pending : ∀ entry ∈ o.pending, entry.port ∈ o.ports
  waiting : ∀ request ∈ o.waiting, request.port ∈ o.ports

theorem respond_known {port : PortId} (known : port ∈ o.ports) (request : RequestId)
    (result : Except RelayError Reply) :
    o.respond port request result = [.toPort port (.response request result)] :=
  if_pos (List.contains_iff_mem.mpr known)

/-- One answer for each of some entries, in order. -/
def each (entries : List Pending) (error : RelayError) : List Sending :=
  entries.map fun entry => .toPort entry.port (.response entry.request (.error error))

theorem respondAll_known {entries : List Pending}
    (known : ∀ entry ∈ entries, entry.port ∈ o.ports) (error : RelayError) :
    o.respondAll entries error = each entries error := by
  induction entries with
  | nil => rfl
  | cons entry rest induction =>
    have others := induction fun other member => known other (List.mem_cons_of_mem _ member)
    have own := respond_known (known entry List.mem_cons_self) entry.request (.error error)
    unfold respondAll at others ⊢
    rw [List.flatMap_cons, others, own]
    rfl

theorem Addressed.handed (addressed : o.Addressed) {input : Input} {link : LinkId}
    {request : Waiting}
    (asker : ∀ port id command, input = .message (.request port id command) → port ∈ o.ports)
    (handed : o.Hands input link request) : request.port ∈ o.ports := by
  cases handed with
  | fresh port id command prepared _ ready linked idle => exact asker port id command rfl
  | kept attempt attempts _ _ asking =>
    exact addressed.waiting request (by simp [Orchestrator.waiting, asking])

theorem Addressed.take (addressed : o.Addressed) {now : Nat} {isOpen : LinkId → Bool}
    {input : Input} (expected : o.Expects input)
    (asker : ∀ port id command, input = .message (.request port id command) → port ∈ o.ports) :
    (o.take now isOpen input).1.Addressed := by
  have outcome := o.take_outcome now isOpen input expected
  generalize (o.take now isOpen input).1 = after at outcome ⊢
  generalize (o.take now isOpen input).2 = sent at outcome
  have none : ∀ {P : Waiting → Prop}, ∀ request ∈ ([] : List Waiting), P request := by simp
  cases outcome with
  | opened port =>
    exact ⟨fun entry held => List.mem_cons_of_mem _ (addressed.pending entry held),
      fun request waits => List.mem_cons_of_mem _ (addressed.waiting request waits)⟩
  | closed port =>
    have idle : o.activity = .idle := expected
    refine ⟨fun entry held => ?_, by simp [Orchestrator.waiting, idle]⟩
    obtain ⟨held, apart⟩ := List.mem_filter.mp held
    exact List.mem_filter.mpr ⟨addressed.pending entry held, apart⟩
  | asked port id command prepared ready idle =>
    refine ⟨addressed.pending, fun request waits => ?_⟩
    obtain rfl : request = ⟨port, id, prepared⟩ := by simpa [Orchestrator.waiting] using waits
    exact asker port id command rfl
  | forwarded _ used request handed isLive =>
    refine ⟨fun entry held => ?_, none⟩
    rcases List.mem_append.mp held with before | new
    · exact addressed.pending entry before
    · rw [List.mem_singleton.mp new]
      exact addressed.handed asker handed
  | replied relayId reply entry found =>
    exact ⟨fun entry held => addressed.pending entry (List.mem_filter.mp held).1,
      addressed.waiting⟩
  | swept next =>
    exact ⟨fun entry held => addressed.pending entry (List.mem_filter.mp held).1,
      addressed.waiting⟩
  | undeliverable _ used request handed isDead => exact ⟨by simp [lost], none⟩
  | ended idle => exact ⟨by simp [lost], none⟩
  | stopped idle => exact ⟨by simp, none⟩
  | linked attempt attempts used asking => exact ⟨addressed.pending, none⟩
  | retried attempt attempts pause waits asking again => exact ⟨addressed.pending, none⟩
  | unreachable attempt attempts waits asking => exact ⟨addressed.pending, none⟩
  | resumed attempt attempts due pausing => exact ⟨addressed.pending, none⟩
  | _ => exact ⟨addressed.pending, addressed.waiting⟩

namespace Run

variable {config : RelayConfig} {started : Nat} {turns : List Turn}

/-- A port that asks for something is known. -/
theorem asker_known {turn : Turn} (run : Run config started turns turn.before)
    (expected : turn.before.Expects turn.input) (orderly : Orderly (taken (turns ++ [turn])))
    {port : PortId} {id : RequestId} {command : Command}
    (asks : turn.input = .message (.request port id command)) : port ∈ turn.before.ports := by
  have split : taken (turns ++ [turn]) = taken turns ++ [.request port id command] := by
    rw [taken_append, asks]
    rfl
  rw [split] at orderly
  have opened : .openPort port ∈ taken turns := by
    have somewhere := orderly.opened (.request port id command) (by simp) port rfl
    simpa using somewhere
  have stays : .closePort port ∉ taken turns := by
    intro closed
    have order := (List.pairwise_append.mp orderly.ordered).2.2 _ closed _
      (List.mem_singleton.mpr rfl)
    exact order.closing port rfl rfl
  rcases run.port_known opened stays with known | stopped
  · exact known
  · exact absurd expected (not_expects_of_stopped stopped _)

theorem addressed (run : Run config started turns o) (orderly : Orderly (taken turns)) :
    o.Addressed := by
  induction run with
  | start => exact ⟨by simp [Orchestrator.start], by simp [Orchestrator.start, waiting]⟩
  | turn turns turn run expected induction =>
    have early := orderly
    rw [taken_append] at early
    exact (induction early.prior).take expected fun port id command asks =>
      run.asker_known expected orderly asks

end Run

end Orchestrator

/-! ## The ends of the links -/

namespace Exchange

variable {x : Exchange} {id : LinkId}

/-- The orchestrator drops its ends of one link, unless it uses it. -/
def dropUnless (current : Option LinkId) (x : Exchange) (id : LinkId) : Exchange :=
  if current = some id || (x.link id).isDropped then x
  else (x.updateLink id Link.drop).wake (.worker id)

theorem dropUnused_eq (x : Exchange) :
    x.dropUnused = (List.range x.links.length).foldl (dropUnless x.orchestrator.link) x := rfl

theorem dropUnless_count (current : Option LinkId) (other : LinkId) :
    (x.dropUnless current other).links.length = x.links.length := by
  unfold dropUnless
  split
  · rfl
  · exact updateLink_count other _

theorem dropUnless_isDropped {current : Option LinkId} {other : LinkId}
    (known : other < x.links.length) :
    ((x.dropUnless current other).link id).isDropped = true ↔
      (x.link id).isDropped = true ∨ id = other ∧ current ≠ some id := by
  unfold dropUnless
  split
  · next passed =>
    rw [Bool.or_eq_true, decide_eq_true_iff] at passed
    constructor
    · exact .inl
    · rintro (dropped | ⟨rfl, unused⟩)
      · exact dropped
      · exact passed.resolve_left unused
  · next unused =>
    rw [Bool.or_eq_true, decide_eq_true_iff, not_or] at unused
    change ((x.updateLink other Link.drop).link id).isDropped = true ↔ _
    by_cases same : id = other
    · subst same
      rw [link_updateLink_self known]
      exact ⟨fun _ => .inr ⟨rfl, unused.1⟩, fun _ => rfl⟩
    · rw [link_updateLink_of_ne same]
      simp [same]

theorem dropAllUnless_isDropped {current : Option LinkId} (ids : List LinkId)
    (known : ∀ other ∈ ids, other < x.links.length) :
    ((ids.foldl (dropUnless current) x).link id).isDropped = true ↔
      (x.link id).isDropped = true ∨ id ∈ ids ∧ current ≠ some id := by
  induction ids generalizing x with
  | nil => simp
  | cons other rest induction =>
    have others : ∀ one ∈ rest, one < (x.dropUnless current other).links.length := by
      intro one member
      rw [dropUnless_count]
      exact known one (List.mem_cons_of_mem _ member)
    rw [List.foldl_cons, induction others, dropUnless_isDropped (known other List.mem_cons_self),
      List.mem_cons, or_assoc, or_and_right]

theorem dropUnused_isDropped :
    (x.dropUnused.link id).isDropped = true ↔
      (x.link id).isDropped = true ∨ id < x.links.length ∧ x.orchestrator.link ≠ some id := by
  rw [dropUnused_eq, dropAllUnless_isDropped _ fun _ => List.mem_range.mp, List.mem_range]

theorem dropUnused_count : x.dropUnused.links.length = x.links.length :=
  foldl_keeps (fun y => y.links.length) _ (fun _ _ => dropUnless_count _ _) _ _

/-- After a step the orchestrator has dropped its ends of all links but the one it uses. -/
theorem apply_isDropped (step : Orchestrator.Step) :
    ((x.apply step).link id).isDropped = true ↔
      (x.link id).isDropped = true ∨ id < x.links.length ∧ step.1.link ≠ some id := by
  obtain ⟨given, _, shape⟩ := carryOutAll_link { x with orchestrator := step.1 } id step.2
  have carried : (step.2.foldl carryOut { x with orchestrator := step.1 }).orchestrator = step.1 :=
    foldl_keeps orchestrator carryOut (fun _ _ => carryOut_orchestrator _) step.2 _
  have count : (step.2.foldl carryOut { x with orchestrator := step.1 }).links.length =
      x.links.length := by
    rw [← apply_links_count (x := x) step]
    exact dropUnused_count.symm
  unfold apply
  rw [dropUnused_isDropped, carried, count, shape]
  rfl

theorem Offers.link_exists {now : Nat} {intake : Intake} {input : Input}
    (offered : x.Offers now intake input) (hands : input = .connected (some id)) :
    id < x.links.length := by
  subst hands
  cases offered with
  | linked link known => exact known

theorem takeIn_isDropped {now : Nat} {intake : Intake} {input : Input}
    (offered : x.Offers now intake input) :
    ((x.takeIn now intake).link id).isDropped = true ↔
      (x.link id).isDropped = true ∨
        id < x.links.length ∧ (x.turn now input).after.link ≠ some id := by
  cases offered with
  | message message rest waiting =>
    simp only [takeIn, takeMessage, waiting]
    rw [link_congr settleStop_links]
    exact apply_isDropped _
  | answer link message rest linked waiting =>
    simp only [takeIn, takeAnswer, waiting]
    have applied := @apply_isDropped (x.updateLink link fun link =>
      { link with messages := rest }) id (x.orchestrator.receiveFromWorker message)
    rw [updateLink_count] at applied
    refine applied.trans (or_congr_left ?_)
    rcases link_updateLink x link id (fun link => { link with messages := rest }) with
      same | ⟨_, _, changed⟩
    · rw [same]
    · rw [changed]
  | ended link linked empty dead =>
    simp only [takeIn, takeAnswer, empty]
    exact apply_isDropped _
  | sweep due => exact apply_isDropped _
  | linked link known => exact apply_isDropped _
  | refused => exact apply_isDropped _
  | pauseOver attempt attempts due pausing late => exact apply_isDropped _

end Exchange

namespace Traffic

variable {config : RelayConfig} {started : Nat} {s after : Traffic}

/-- The connector has handed the link over. -/
def HandedOver (turns : List Turn) (link : LinkId) : Prop :=
  ∃ turn ∈ turns, turn.input = .connected (some link)

/-- What a step has to do with the ends of the links: nothing, or it is a turn. -/
theorem Step.ends (step : Step config s after) :
    (after.turns = s.turns ∧ after.exchange.orchestrator = s.exchange.orchestrator ∧
        ∀ id, (after.exchange.link id).isDropped = (s.exchange.link id).isDropped) ∨
      ∃ intake input, s.exchange.Offers s.now intake input ∧
        s.exchange.orchestrator.Expects input ∧
        after.turns = s.turns ++ [s.exchange.turn s.now input] ∧
        after.exchange.orchestrator = (s.exchange.turn s.now input).after ∧
        ∀ id, (after.exchange.link id).isDropped = true ↔ (s.exchange.link id).isDropped = true ∨
          id < s.exchange.links.length ∧ after.exchange.orchestrator.link ≠ some id := by
  have still : after.turns = s.turns →
      after.exchange.orchestrator = s.exchange.orchestrator := by
    intro turns
    rcases step.turned with ⟨_, same⟩ | ⟨input, more, _⟩
    · exact same
    · rw [turns] at more
      exact absurd more (by simp)
  cases step.links with
  | apart links turns =>
    exact .inl ⟨turns, still turns, fun id => by rw [Exchange.link_congr links]⟩
  | moved move exchange log =>
    have turns : after.turns = s.turns := by rw [Traffic.turns, Traffic.turns, log]
    refine .inl ⟨turns, still turns, fun id => ?_⟩
    rw [exchange]
    exact (Exchange.moveLink_link s.exchange move id).1
  | turned intake input offered expected exchange turns =>
    have orchestrator := (Exchange.takeIn_turned offered expected).orchestrator
    rw [← exchange] at orchestrator
    refine .inr ⟨intake, input, offered, expected, turns, orchestrator, fun id => ?_⟩
    rw [exchange, Exchange.takeIn_isDropped offered, ← exchange, orchestrator]

theorem handedOver_append {turns : List Turn} {turn : Turn} {link : LinkId} :
    HandedOver (turns ++ [turn]) link ↔
      HandedOver turns link ∨ turn.input = .connected (some link) := by
  simp [HandedOver, or_and_right, exists_or]

/-- A link that has been handed over exists, and so does the one in use. -/
theorem Reaches.link_exists (reached : Reaches config started s) {id : LinkId}
    (some : HandedOver s.turns id ∨ s.exchange.orchestrator.link = some id) :
    id < s.exchange.links.length := by
  induction reached with
  | start =>
    rcases some with ⟨turn, member, _⟩ | used
    · cases member
    · cases used
  | @step s after reached step induction =>
    refine Nat.lt_of_lt_of_le ?_ step.links_count
    rcases step.ends with
      ⟨turns, orchestrator, _⟩ | ⟨intake, input, offered, expected, turns, orchestrator, _⟩
    · rw [turns, orchestrator] at some
      exact induction some
    · rw [turns, orchestrator, handedOver_append] at some
      rcases some with (before | hands) | used
      · exact induction (.inl before)
      · exact offered.link_exists hands
      · rcases reached.run.moored.link_from expected used with before | ⟨_, hands⟩
        · exact induction (.inr before)
        · exact offered.link_exists hands

/-- The orchestrator has dropped its ends of every link that it was given and does not use. -/
theorem Reaches.unused (reached : Reaches config started s) {id : LinkId}
    (given : HandedOver s.turns id) (unused : s.exchange.orchestrator.link ≠ some id) :
    (s.exchange.link id).isDropped = true := by
  induction reached with
  | start =>
    obtain ⟨turn, member, _⟩ := given
    cases member
  | @step s after reached step induction =>
    rcases step.ends with
      ⟨turns, orchestrator, same⟩ | ⟨intake, input, offered, expected, turns, _, dropped⟩
    · rw [turns] at given
      rw [orchestrator] at unused
      rw [same]
      exact induction given unused
    · rw [dropped]
      rw [turns, handedOver_append] at given
      refine .inr ⟨?_, unused⟩
      rcases given with before | hands
      · exact reached.link_exists (.inl before)
      · exact offered.link_exists hands

/-- The states the relay can get into when the connector hands over only links whose other ends
nobody has dropped. -/
inductive Supplied (config : RelayConfig) (started : Nat) : Traffic → Prop
  | start : Supplied config started (.start config started)
  | step {s after : Traffic} :
      Supplied config started s → Step config s after →
      (∀ turn link, after.turns = s.turns ++ [turn] → turn.input = .connected (some link) →
        (s.exchange.link link).isDropped = false) →
      Supplied config started after

theorem Supplied.reaches (supplied : Supplied config started s) : Reaches config started s := by
  induction supplied with
  | start => exact .start
  | step supplied step whole induction => exact induction.step step

/-- The orchestrator has not dropped its ends of the link that it uses. -/
theorem Supplied.used (supplied : Supplied config started s) {id : LinkId}
    (used : s.exchange.orchestrator.link = some id) : (s.exchange.link id).isDropped = false := by
  induction supplied with
  | start => cases used
  | @step s after supplied step whole induction =>
    rcases step.ends with
      ⟨_, orchestrator, same⟩ | ⟨intake, input, offered, expected, turns, orchestrator, dropped⟩
    · rw [orchestrator] at used
      rw [same]
      exact induction used
    · have before : (s.exchange.link id).isDropped = false := by
        rw [orchestrator] at used
        rcases supplied.reaches.run.moored.link_from expected used with before | ⟨_, hands⟩
        · exact induction before
        · exact whole _ id turns hands
      rw [Bool.eq_false_iff, ne_eq, dropped, before]
      simp [used]

end Traffic

end BrowserScript.Relay

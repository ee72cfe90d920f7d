import BrowserScript.Proofs.Relay.Correlation

/-!
# What goes over the links

A turn of the orchestrator may put a request on a link, may take the next message of the link it
uses, and may drop links; the others at work on the exchange leave the links alone. Main
definitions: `errands`, `Link.Changes`. Main results: `Exchange.takeIn_link`, `Traffic.Step.links`,
`Orchestrator.Run.errands_increasing`, `Traffic.Reaches.errand`.
-/

set_option autoImplicit false

namespace BrowserScript.Relay

/-! ## The requests the orchestrator sends -/

/-- What a list of sendings puts on the links, in order. -/
def handedOver (sent : List Sending) : List (LinkId × LinkRequest) :=
  sent.filterMap fun
    | .toWorker link request => some (link, request)
    | _ => none

/-- What a list of sendings puts on one link. -/
def handedTo (id : LinkId) (sent : List Sending) : List LinkRequest :=
  sent.filterMap fun
    | .toWorker link request => if link = id then some request else none
    | _ => none

theorem mem_handedOver {id : LinkId} {request : LinkRequest} {sent : List Sending} :
    (id, request) ∈ handedOver sent ↔ .toWorker id request ∈ sent :=
  mem_filterMap_of_only fun sending => by cases sending <;> simp

theorem mem_handedTo {id : LinkId} {request : LinkRequest} {sent : List Sending} :
    request ∈ handedTo id sent ↔ .toWorker id request ∈ sent :=
  mem_filterMap_of_only fun sending => by cases sending <;> simp

/-- All requests that have ever been put on a link, in order. -/
def errands (turns : List Turn) : List (LinkId × LinkRequest) :=
  turns.flatMap fun turn => handedOver turn.sent

theorem errands_append (turns : List Turn) (turn : Turn) :
    errands (turns ++ [turn]) = errands turns ++ handedOver turn.sent := by
  simp [errands]

theorem mem_errands {id : LinkId} {request : LinkRequest} {turns : List Turn} :
    (id, request) ∈ errands turns ↔ ∃ turn ∈ turns, .toWorker id request ∈ turn.sent := by
  simp only [errands, List.mem_flatMap, mem_handedOver]

namespace Orchestrator

variable {o after : Orchestrator} {now : Nat} {isOpen : LinkId → Bool} {input : Input}
  {sent : List Sending}

theorem not_toWorker_respond {link : LinkId} {ready : LinkRequest} {port : PortId}
    {request : RequestId} {result : Except RelayError Reply} :
    .toWorker link ready ∉ o.respond port request result := by
  unfold respond
  split <;> simp

theorem not_toWorker_respondAll {link : LinkId} {ready : LinkRequest} {entries : List Pending}
    {error : RelayError} : .toWorker link ready ∉ o.respondAll entries error := by
  intro member
  obtain ⟨entry, _, answer⟩ := List.mem_flatMap.mp member
  exact not_toWorker_respond answer

/-- A request goes to the worker only with a new entry for it. -/
theorem Outcome.toWorker (outcome : o.Outcome now isOpen input after sent) {link : LinkId}
    {ready : LinkRequest} (member : .toWorker link ready ∈ sent) :
    sent = [.toWorker link ready] ∧ after.activity = .idle ∧ ready.relayId = o.lastRelayId + 1 ∧
      ∃ entry, after.pending = o.pending ++ [entry] ∧ entry.relayId = ready.relayId := by
  cases outcome with
  | forwarded _ used request handed isLive =>
    obtain ⟨rfl, rfl⟩ : link = used ∧ ready = ⟨o.lastRelayId + 1, request.command⟩ := by
      simpa using member
    exact ⟨rfl, rfl, rfl, o.entryFor now request, rfl, rfl⟩
  | refused port request command error reason => exact absurd member not_toWorker_respond
  | undeliverable _ used request handed isDead =>
    simp only [List.mem_append, List.mem_singleton, reduceCtorEq, or_false] at member
    exact (member.elim not_toWorker_respond not_toWorker_respondAll).elim
  | stopped idle => exact absurd member not_toWorker_respondAll
  | replied relayId reply entry found => exact absurd member not_toWorker_respond
  | progressed relayId event entry found =>
    split at member <;> simp at member
  | ended idle =>
    simp only [List.mem_append, List.mem_singleton, reduceCtorEq, or_false] at member
    exact absurd member not_toWorker_respondAll
  | swept next => exact absurd member not_toWorker_respondAll
  | unreachable attempt attempts waiting asking =>
    obtain ⟨request, _, answer⟩ := List.mem_flatMap.mp member
    exact absurd answer not_toWorker_respond
  | _ => simp at member

end Orchestrator

namespace Orchestrator.Run

variable {config : RelayConfig} {started : Nat} {turns : List Turn} {o : Orchestrator}

/-- A turn puts a request on a link exactly when it makes an entry, under the id of the entry. -/
theorem handedOver_ids (run : Run config started turns o) {earlier later : List Turn} {turn : Turn}
    (split : turns = earlier ++ turn :: later) :
    (handedOver turn.sent).map (fun errand => errand.2.relayId) =
      turn.assigned.map Pending.relayId := by
  obtain ⟨_, expected⟩ := run.before_turn earlier later turn split
  rcases run.assigned_cases split with ⟨none, dropped, _⟩ | ⟨link, request, _, one, _, _, sends⟩
  · have nothing : handedOver turn.sent = [] := by
      refine List.eq_nil_iff_forall_not_mem.mpr ?_
      rintro ⟨link, ready⟩ member
      obtain ⟨_, _, _, entry, grows, _⟩ :=
        (turn.outcome expected).toWorker (mem_handedOver.mp member)
      have longer := dropped.length_le
      rw [grows, List.length_append, List.length_singleton] at longer
      omega
    rw [none, nothing]
    rfl
  · rw [one, sends]
    rfl

/-- The ids of all errands increase, whatever link they go on. -/
theorem errands_increasing (run : Run config started turns o) :
    (errands turns).Pairwise fun earlier later => earlier.2.relayId < later.2.relayId := by
  have ids : ∀ part, (∀ turn ∈ part, turn ∈ turns) →
      (errands part).map (fun errand => errand.2.relayId) =
        (assignments part).map Pending.relayId := by
    intro part within
    induction part with
    | nil => rfl
    | cons turn rest induction =>
      obtain ⟨earlier, later, split⟩ := List.append_of_mem (within turn List.mem_cons_self)
      have others := induction fun turn member => within turn (List.mem_cons_of_mem _ member)
      simp only [errands, assignments, List.flatMap_cons, List.map_append] at others ⊢
      rw [others, run.handedOver_ids split]
  have increasing := List.pairwise_map.mpr run.numbered.increasing
  rw [← ids turns fun _ member => member] at increasing
  exact List.pairwise_map.mp increasing

/-- No relay id goes on two errands. -/
theorem errand_unique (run : Run config started turns o) {left right : LinkId × LinkRequest}
    (leftSent : left ∈ errands turns) (rightSent : right ∈ errands turns)
    (same : left.2.relayId = right.2.relayId) : left = right := by
  have distinct : ((errands turns).map fun errand => errand.2.relayId).Nodup := by
    rw [List.Nodup, List.pairwise_map]
    exact run.errands_increasing.imp Nat.ne_of_lt
  exact List.inj_on_of_nodup_map distinct leftSent rightSent same

/-- Every errand has the entry of its relay id, and carries the command of the request that the
entry stands for. -/
theorem errand_origin (run : Run config started turns o) {id : LinkId} {ready : LinkRequest}
    (sent : (id, ready) ∈ errands turns) :
    ∃ earlier turn later entry, turns = earlier ++ turn :: later ∧ entry ∈ turn.assigned ∧
      entry.relayId = ready.relayId ∧ turn.sent = [.toWorker id ready] := by
  obtain ⟨turn, member, addressed⟩ := mem_errands.mp sent
  obtain ⟨earlier, later, split⟩ := List.append_of_mem member
  obtain ⟨_, expected⟩ := run.before_turn earlier later turn split
  obtain ⟨alone, _⟩ := (turn.outcome expected).toWorker addressed
  have ids := run.handedOver_ids split
  rw [alone] at ids
  cases assigned : turn.assigned with
  | nil =>
    rw [assigned] at ids
    cases ids
  | cons entry rest =>
    rw [assigned] at ids
    obtain ⟨same, _⟩ := List.cons.inj ids
    exact ⟨earlier, turn, later, entry, split, by rw [assigned]; exact List.mem_cons_self,
      same.symm, alone⟩

end Orchestrator.Run

/-! ## What happens to a link -/

/-- Requests are put on a link or taken off it; messages are said at one end and heard at the other
in the same order, and what is neither heard nor still there has been lost, with the link. -/
structure Link.Changes (before after : Link) (given : List LinkRequest)
    (said heard : List LinkMessage) : Prop where
  requests : after.requests.Sublist (before.requests ++ given)
  messages : ∃ lost, before.messages ++ said = heard ++ after.messages ++ lost ∧
    (after.isDropped = false → lost = [])
  dropped : before.isDropped = true → after.isDropped = true
  silent : (before.isDropped = true → before.messages = []) → after.isDropped = true →
    after.messages = []

theorem Link.Changes.refl (link : Link) : link.Changes link [] [] [] where
  requests := by simp
  messages := ⟨[], by simp, fun _ => rfl⟩
  dropped := id
  silent := id

/-- The orchestrator drops its end. -/
def Link.drop (link : Link) : Link := { link with isDropped := true, messages := [] }

namespace Exchange

variable {x y : Exchange} {id : LinkId}

theorem link_congr (same : y.links = x.links) : y.link id = x.link id := by
  unfold link
  rw [same]

theorem link_updateLink_self (known : id < x.links.length) (f : Link → Link) :
    (x.updateLink id f).link id = f (x.link id) := by
  simp [link, updateLink, List.getD_eq_getElem?_getD, known]

theorem link_updateLink_of_ne {other : LinkId} (different : other ≠ id) (f : Link → Link) :
    (x.updateLink id f).link other = x.link other := by
  simp [link, updateLink, List.getD_eq_getElem?_getD, different.symm]

theorem link_of_le (missing : x.links.length ≤ id) : x.link id = default := by
  simp [link, List.getElem?_eq_none missing]

theorem inside_of_waiting {ready : LinkRequest} {rest : List LinkRequest}
    (waiting : (x.link id).requests = ready :: rest) : id < x.links.length := by
  by_contra missing
  rw [link_of_le (Nat.le_of_not_lt missing)] at waiting
  cases waiting

/-- A change of one link is seen on that link only, and only if there is such a link. -/
theorem link_updateLink (x : Exchange) (id other : LinkId) (f : Link → Link) :
    (x.updateLink id f).link other = x.link other ∨
      other = id ∧ id < x.links.length ∧ (x.updateLink id f).link other = f (x.link other) := by
  by_cases same : other = id
  · subst same
    by_cases known : other < x.links.length
    · exact .inr ⟨rfl, known, link_updateLink_self known f⟩
    · have still : (x.updateLink other f).links.length ≤ other := by
        simpa [updateLink] using known
      rw [link_of_le still, link_of_le (Nat.le_of_not_lt known)]
      exact .inl rfl
  · exact .inl (link_updateLink_of_ne same f)

/-! ### Where links are left alone -/

@[simp] theorem updatePort_links (port : PortId) (f : Port → Port) :
    (x.updatePort port f).links = x.links := by
  cases port <;> rfl

@[simp] theorem tell_links (message : Message) : (x.tell message).links = x.links := by
  unfold tell
  split <;> rfl

theorem openPort_links : x.openPort.1.links = x.links := by simp [openPort, wake]

theorem closePort_links (port : PortId) : (x.closePort port).links = x.links := by
  simp [closePort]

theorem send_links (port : PortId) (command : Command) :
    (x.send port command).1.links = x.links := by
  unfold send
  dsimp only
  split <;> simp

theorem fetch_links (port : PortId) (request : RequestId) :
    (x.fetch port request).1.links = x.links := by
  unfold fetch
  split <;> simp

theorem giveUp_links (port : PortId) (request : RequestId) :
    (x.giveUp port request).links = x.links := by simp [giveUp]

theorem deliver_links (port : PortId) (request : RequestId) (result : Except RelayError Reply) :
    (x.deliver port request result).links = x.links := by
  unfold deliver
  split <;> simp [wake, giveUp]

theorem sortNext_links (port : PortId) : (x.sortNext port).links = x.links := by
  unfold sortNext
  split
  · rfl
  · next message rest _ =>
    cases message with
    | response request result => simp [sort, deliver_links]
    | progress request event => simp [sort, wake]

theorem hangUp_links (port : PortId) : (x.hangUp port).links = x.links := by
  have all : ∀ requests : List RequestId,
      (requests.foldl (fun x request => x.deliver port request (.error .closed)) x).links =
        x.links := by
    intro requests
    induction requests generalizing x with
    | nil => rfl
    | cons request rest induction => rw [List.foldl_cons, induction, deliver_links]
  exact all _

theorem drainNotes_links (port : PortId) : (x.drainNotes port).1.links = x.links := by
  simp [drainNotes]

theorem settleStop_links : x.settleStop.links = x.links := by
  have woken : ∀ (parties : List Party) (y : Exchange), (parties.foldl wake y).links = y.links := by
    intro parties
    induction parties with
    | nil => exact fun _ => rfl
    | cons party rest induction => exact fun y => induction (y.wake party)
  unfold settleStop
  split
  · rfl
  · exact woken _ _

/-! ### Turns -/

/-- Each link is left alone or dropped. -/
theorem dropUnused_link (x : Exchange) (id : LinkId) :
    x.dropUnused.link id = x.link id ∨ x.dropUnused.link id = (x.link id).drop := by
  have all : ∀ (ids : List LinkId) (y : Exchange),
      (y.link id = x.link id ∨ y.link id = (x.link id).drop) →
        let z := ids.foldl (fun y other =>
          if x.orchestrator.link = some other || (y.link other).isDropped then y
          else (y.updateLink other fun link =>
            { link with isDropped := true, messages := [] }).wake (.worker other)) y
        z.link id = x.link id ∨ z.link id = (x.link id).drop := by
    intro ids
    induction ids with
    | nil => exact fun _ same => same
    | cons other rest induction =>
      intro y same
      refine induction _ ?_
      dsimp only
      split
      · exact same
      · change (y.updateLink other Link.drop).link id = _ ∨
          (y.updateLink other Link.drop).link id = _
        rcases link_updateLink y other id Link.drop with still | ⟨_, _, changed⟩
        · rw [still]
          exact same
        · rw [changed]
          rcases same with same | same <;> rw [same]
          · exact .inr rfl
          · exact .inr rfl
  exact all _ x (.inl rfl)

theorem carryOut_link (x : Exchange) (id : LinkId) (sending : Sending) :
    ∃ given, given.Sublist (handedTo id [sending]) ∧
      (x.carryOut sending).link id =
        { x.link id with requests := (x.link id).requests ++ given } := by
  have nothing : ∀ y : Exchange, y.links = x.links →
      ∃ given, given.Sublist (handedTo id [sending]) ∧
        y.link id = { x.link id with requests := (x.link id).requests ++ given } := by
    intro y same
    refine ⟨[], List.nil_sublist _, ?_⟩
    rw [link_congr same, List.append_nil]
  cases sending with
  | toWorker link request =>
    rcases link_updateLink x link id
      (fun link => { link with requests := link.requests ++ [request] }) with
      still | ⟨rfl, _, changed⟩
    · refine ⟨[], List.nil_sublist _, ?_⟩
      rw [List.append_nil]
      exact still
    · exact ⟨[request], by simp [handedTo], changed⟩
  | toPort port message =>
    refine nothing _ ?_
    simp only [carryOut]
    split <;> simp [wake]
  | pendingCount asker count => exact nothing _ rfl
  | connect => exact nothing _ rfl
  | pause ms => exact nothing _ rfl

theorem carryOutAll_link (x : Exchange) (id : LinkId) (sent : List Sending) :
    ∃ given, given.Sublist (handedTo id sent) ∧
      (sent.foldl carryOut x).link id =
        { x.link id with requests := (x.link id).requests ++ given } := by
  induction sent generalizing x with
  | nil => exact ⟨[], List.nil_sublist _, by rw [List.append_nil]; rfl⟩
  | cons sending rest induction =>
    obtain ⟨first, within, shape⟩ := carryOut_link x id sending
    obtain ⟨others, also, final⟩ := induction (x.carryOut sending)
    refine ⟨first ++ others, ?_, ?_⟩
    · have split : handedTo id (sending :: rest) = handedTo id [sending] ++ handedTo id rest :=
        List.filterMap_append (l := [sending])
      rw [split]
      exact within.append also
    · rw [List.foldl_cons, final, shape, List.append_assoc]

/-- A step of the orchestrator puts requests on links and drops links. -/
theorem apply_link (x : Exchange) (id : LinkId) (step : Orchestrator.Step) :
    (x.link id).Changes ((x.apply step).link id) (handedTo id step.2) [] [] := by
  obtain ⟨given, within, shape⟩ := carryOutAll_link { x with orchestrator := step.1 } id step.2
  have before : ({ x with orchestrator := step.1 } : Exchange).link id = x.link id := rfl
  rw [before] at shape
  have more := (List.Sublist.refl (x.link id).requests).append within
  unfold apply
  rcases dropUnused_link (step.2.foldl carryOut { x with orchestrator := step.1 }) id with
    same | same <;> rw [same, shape]
  · exact ⟨more, ⟨[], by simp, fun _ => rfl⟩, fun dropped => dropped, fun silent => silent⟩
  · exact ⟨more, ⟨(x.link id).messages, by simp [Link.drop], fun stays => by cases stays⟩,
      fun _ => rfl, fun _ _ => rfl⟩

/-- The messages that a turn takes from a link. -/
def heardOn (x : Exchange) (id : LinkId) : Input → List LinkMessage
  | .fromWorker message => if x.orchestrator.link = some id then [message] else []
  | _ => []

/-- A turn takes the message it hears off the link that the orchestrator uses. -/
theorem takeIn_link {now : Nat} {intake : Intake} {input : Input}
    (offered : x.Offers now intake input) :
    (x.link id).Changes ((x.takeIn now intake).link id) (handedTo id (x.turn now input).sent) []
      (x.heardOn id input) := by
  cases offered with
  | message message rest waiting =>
    have taken : x.takeMessage now = ({ x with inbox := rest }.apply
        (x.orchestrator.receive now x.takesRequests message)).settleStop := by
      simp only [takeMessage, waiting]
    simp only [takeIn, taken]
    rw [link_congr settleStop_links]
    exact apply_link { x with inbox := rest } id _
  | answer link message rest linked waiting =>
    simp only [takeIn, takeAnswer, waiting]
    have applied := apply_link (x.updateLink link fun link => { link with messages := rest }) id
      (x.orchestrator.receiveFromWorker message)
    by_cases used : id = link
    · subst used
      have known : id < x.links.length := by
        by_contra missing
        rw [link_of_le (Nat.le_of_not_lt missing)] at waiting
        cases waiting
      rw [link_updateLink_self known] at applied
      obtain ⟨lost, split, stays⟩ := applied.messages
      refine ⟨applied.requests, ⟨lost, ?_, stays⟩, applied.dropped, fun silent => ?_⟩
      · rw [heardOn, if_pos linked, waiting]
        simpa using split
      · refine applied.silent fun dropped => ?_
        rw [silent dropped] at waiting
        cases waiting
    · rw [link_updateLink_of_ne used] at applied
      have deaf : x.heardOn id (.fromWorker message) = [] := by
        rw [heardOn, if_neg]
        intro same
        exact used (Option.some.inj (same.symm.trans linked))
      rw [deaf]
      exact applied
  | ended link linked empty dead =>
    simp only [takeIn, takeAnswer, empty]
    exact apply_link x id _
  | sweep due => exact apply_link x id _
  | linked link known => exact apply_link x id _
  | refused => exact apply_link x id _
  | pauseOver attempt attempts due pausing late => exact apply_link x id _

/-! ### The worker's end -/

theorem takeRequest_waiting {ready : LinkRequest} (taken : (x.takeRequest id).2 = some ready) :
    ∃ rest, (x.link id).requests = ready :: rest := by
  unfold takeRequest at taken
  split at taken
  · cases taken
  · next request rest waiting =>
    cases taken
    exact ⟨rest, waiting⟩

/-- The worker's end of a link only ever loses requests. -/
theorem moveLink_requests (move : LinkMove) :
    ((x.moveLink move).link id).requests.Sublist (x.link id).requests := by
  have update : ∀ (link : LinkId) (f : Link → Link),
      (∀ before, (f before).requests.Sublist before.requests) →
        ((x.updateLink link f).link id).requests.Sublist (x.link id).requests := by
    intro link f fewer
    rcases link_updateLink x link id f with same | ⟨_, _, changed⟩
    · rw [same]
    · rw [changed]
      exact fewer _
  cases move with
  | openLink =>
    by_cases old : id < x.links.length
    · have same : x.openLink.1.link id = x.link id := by
        simp [openLink, link, List.getElem?_append_left old]
      exact same ▸ List.Sublist.refl _
    · have blank : (x.openLink.1.link id).requests = [] := by
        rcases Nat.eq_or_lt_of_le (Nat.le_of_not_lt old) with rfl | beyond
        · simp [openLink, link]
        · rw [link_of_le]
          · rfl
          · simpa [openLink] using Nat.succ_le_of_lt beyond
      exact (congrArg (List.Sublist · _) blank).mpr (List.nil_sublist _)
  | takeRequest link =>
    simp only [moveLink, takeRequest]
    split
    · exact List.Sublist.refl _
    · next request rest waiting =>
      rcases link_updateLink x link id (fun link => { link with requests := rest }) with
        same | ⟨rfl, _, changed⟩
      · rw [same]
      · rw [changed, waiting]
        exact List.sublist_cons_self _ _
  | answer link message =>
    simp only [moveLink, answer]
    split
    · exact List.Sublist.refl _
    · exact update link _ fun _ => List.Sublist.refl _
  | stopRequests link => exact update link _ fun _ => List.nil_sublist _
  | dropLink link =>
    have stopped := update link (fun link => { link with takesRequests := false, requests := [] })
      fun _ => List.nil_sublist _
    refine List.Sublist.trans ?_ stopped
    rcases link_updateLink (x.stopRequests link) link id
      (fun link => { link with mayAnswer := false }) with same | ⟨_, _, changed⟩
    · exact (congrArg Link.requests same) ▸ List.Sublist.refl _
    · exact (congrArg Link.requests changed) ▸ List.Sublist.refl _

end Exchange

/-! ## Steps -/

namespace Traffic

variable {config : RelayConfig} {started : Nat} {s after : Traffic}

/-- What a step has to do with the links: nothing, a move at the worker's end, or a turn. -/
inductive OnLinks (s after : Traffic) : Prop
  | apart : after.exchange.links = s.exchange.links → after.turns = s.turns → OnLinks s after
  | moved (move : Exchange.LinkMove) :
      after.exchange = s.exchange.moveLink move → after.log = s.log → OnLinks s after
  | turned (intake : Intake) (input : Input) :
      s.exchange.Offers s.now intake input → s.exchange.orchestrator.Expects input →
      after.exchange = s.exchange.takeIn s.now intake →
      after.turns = s.turns ++ [s.exchange.turn s.now input] → OnLinks s after

theorem Step.links (step : Step config s after) : OnLinks s after := by
  have aside : ∀ {event : Event}, turnsOf [event] = [] → after.log = s.log ++ [event] →
      after.turns = s.turns := by
    intro event none same
    unfold turns
    rw [same, turnsOf_append, none, List.append_nil]
  cases step with
  | wait time => exact .apart rfl rfl
  | openPort => exact .apart Exchange.openPort_links (aside rfl rfl)
  | closePort port isOpen unused => exact .apart (Exchange.closePort_links port) rfl
  | tell message notPort => exact .apart (Exchange.tell_links message) rfl
  | send port command request isOpen accepted =>
    exact .apart (Exchange.send_links port command) (aside rfl rfl)
  | refuse port command isOpen refused =>
    exact .apart (Exchange.send_links port command) (aside rfl rfl)
  | fetch caller result waits fetched => exact .apart (Exchange.fetch_links _ _) (aside rfl rfl)
  | giveUp caller waits late nothing => exact .apart (Exchange.giveUp_links _ _) (aside rfl rfl)
  | abandon caller => exact .apart rfl rfl
  | sort port isOpen => exact .apart (Exchange.sortNext_links port) rfl
  | hangUp port isOpen sorted cut => exact .apart (Exchange.hangUp_links port) (aside rfl rfl)
  | drain port isOpen => exact .apart (Exchange.drainNotes_links port) (aside rfl rfl)
  | link move => exact .moved move rfl rfl
  | turn intake input offered expected =>
    exact .turned intake input offered expected rfl (by simp [turns, turnsOf])

/-- What waits on a link for the worker has been put there by a turn. -/
theorem Reaches.errand (reached : Reaches config started s) {id : LinkId} {ready : LinkRequest}
    (waits : ready ∈ (s.exchange.link id).requests) : (id, ready) ∈ errands s.turns := by
  induction reached with
  | start => cases waits
  | step reached step induction =>
    cases step.links with
    | apart links turns =>
      rw [Exchange.link_congr links] at waits
      rw [turns]
      exact induction waits
    | moved move exchange log =>
      rw [exchange] at waits
      have same := induction ((Exchange.moveLink_requests move).subset waits)
      rw [turns, log]
      exact same
    | turned intake input offered expected exchange turns =>
      rw [exchange] at waits
      rw [turns, errands_append, List.mem_append]
      rcases List.mem_append.mp ((Exchange.takeIn_link offered).requests.subset waits) with
        before | given
      · exact .inl (induction before)
      · exact .inr (mem_handedOver.mpr (mem_handedTo.mp given))

/-- An errand carries, prepared, the command of the request that its relay id has been given to. -/
theorem Reaches.errand_called (reached : Reaches config started s) {id : LinkId}
    {ready : LinkRequest} (sent : (id, ready) ∈ errands s.turns) :
    ∃ entry ∈ assignments s.turns, entry.relayId = ready.relayId ∧
      ∃ now command, .called now entry.port entry.request command ∈ s.log ∧
        ∃ o : Orchestrator, o.config = config ∧ o.prepare command = .ok ready.command := by
  obtain ⟨earlier, turn, later, entry, split, assigned, number, alone⟩ :=
    reached.run.errand_origin sent
  obtain ⟨now, command, prepared, _, called, prepares, also⟩ :=
    reached.correlated.assigned earlier turn later split entry assigned
  obtain rfl : ready.command = prepared := by
    rw [alone] at also
    cases also
    rfl
  refine ⟨entry, ?_, number, now, command, called, turn.before,
    (reached.run.before_turn earlier later turn split).1.config_eq, prepares⟩
  rw [split]
  exact List.mem_flatMap.mpr ⟨turn, by simp, assigned⟩

end Traffic

end BrowserScript.Relay

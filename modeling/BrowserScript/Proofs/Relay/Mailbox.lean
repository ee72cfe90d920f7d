import BrowserScript.Proofs.Relay.Flow

/-!
# The mailboxes of a port

Each step does one of a few things to a port. From these follows what holds of the mailboxes in
every state: nobody waits for what has been answered, whoever is still sending waits or has an
answer to fetch, and what lies in a mailbox was sent to that port.
-/

set_option autoImplicit false

namespace BrowserScript.Relay

/-- What a step does to a port, as far as others are concerned. -/
inductive Port.Deed where
  | nothing
  | closes
  | calls
  /-- The send of a request returns. -/
  | returns (request : RequestId)
  /-- The orchestrator has sent something. -/
  | gets (messages : List PortMessage)

/-- What a step can do to a port. -/
inductive Port.Move : Port.Deed → Port → Port → Prop
  | same (port : Port) : Move .nothing port port
  | fresh (isConnected : Bool) : Move .nothing default ⟨0, [], [], [], [], true, isConnected⟩
  | closed (port : Port) : Move .closes port { port with isOpen := false, inbox := [] }
  | asked (port : Port) :
      Move .calls port
        { port with
          lastRequest := port.lastRequest + 1
          waiters := port.waiters ++ [port.lastRequest + 1] }
  | refused (port : Port) : Move .nothing port { port with lastRequest := port.lastRequest + 1 }
  | fetched (port : Port) (request : RequestId) :
      Move (.returns request) port
        { port with answers := port.answers.filter fun answer => answer.1 != request }
  | gaveUp (port : Port) (request : RequestId) :
      Move (.returns request) port
        { port with waiters := port.waiters.filter fun waiter => waiter != request }
  | answered (port : Port) (request : RequestId) (result : Except RelayError Reply)
      (rest : List PortMessage) :
      port.inbox = .response request result :: rest → request ∈ port.waiters →
      Move .nothing port
        { port with
          inbox := rest
          waiters := port.waiters.filter fun waiter => waiter != request
          answers := port.answers ++ [(request, result)] }
  | late (port : Port) (request : RequestId) (result : Except RelayError Reply)
      (rest : List PortMessage) :
      port.inbox = .response request result :: rest → request ∉ port.waiters →
      Move .nothing port { port with inbox := rest }
  | noted (port : Port) (request : RequestId) (event : ProgressEvent) (rest : List PortMessage) :
      port.inbox = .progress request event :: rest →
      Move .nothing port { port with inbox := rest, notes := port.notes ++ [⟨request, event⟩] }
  | hungUp (port : Port) (answers : List (RequestId × Except RelayError Reply)) :
      port.isConnected = false →
      (∀ answer, answer ∈ answers ↔ answer ∈ port.answers ∨
        answer.1 ∈ port.waiters ∧ answer.2 = .error .closed) →
      Move .nothing port { port with waiters := [], answers := answers }
  | drained (port : Port) : Move .nothing port { port with notes := [] }
  | received (port : Port) (messages : List PortMessage) (isConnected : Bool) :
      Move (.gets messages) port { port.receive messages with isConnected := isConnected }

namespace Exchange

variable {x : Exchange} {id : PortId}

theorem sortNext_move (has : x.Has id) :
    Port.Move .nothing (x.port id) ((x.sortNext id).port id) := by
  cases waiting : (x.port id).inbox with
  | nil =>
    have nothing : x.sortNext id = x := by simp only [sortNext, waiting]
    rw [nothing]
    exact .same _
  | cons message rest =>
    have next : x.sortNext id =
        (x.updatePort id fun port => { port with inbox := rest }).sort id message := by
      simp only [sortNext, waiting]
    have still : (x.updatePort id fun port => { port with inbox := rest }).Has id :=
      ⟨has.1, by rw [updatePort_count]; exact has.2⟩
    have taken : (x.updatePort id fun port => { port with inbox := rest }).port id =
        { x.port id with inbox := rest } := port_updatePort_self has _
    rw [next]
    cases message with
    | response request result =>
      simp only [sort]
      by_cases waits : request ∈ (x.port id).waiters
      · rw [deliver_port still result (by rw [taken]; exact waits), taken]
        exact .answered _ request result rest waiting waits
      · rw [deliver_of_not_waiting result (by rw [taken]; exact waits), taken]
        exact .late _ request result rest waiting waits
    | progress request event =>
      simp only [sort]
      rw [port_wake, port_updatePort_self still, taken]
      exact .noted _ request event rest waiting

theorem hangUp_move (has : x.Has id)
    (cut : (x.port id).isConnected = false) :
    Port.Move .nothing (x.port id) ((x.hangUp id).port id) := by
  obtain ⟨waiters, inbox, notes, answers⟩ := hangUp_port has
  have within : Within id x (x.hangUp id) := hangUp_within
  have fields : ∀ port : Port, port = ⟨port.lastRequest, port.inbox, port.waiters, port.answers,
      port.notes, port.isOpen, port.isConnected⟩ := fun _ => rfl
  have shape : (x.hangUp id).port id =
      { x.port id with waiters := [], answers := ((x.hangUp id).port id).answers } := by
    rw [fields ((x.hangUp id).port id), waiters, inbox, notes, within.lastRequest, within.isOpen,
      within.isConnected]
  rw [shape]
  exact .hungUp _ _ cut answers

theorem fetch_move {request : RequestId} {result : Except RelayError Reply}
    (fetched : (x.fetch id request).2 = some result) :
    (request, result) ∈ (x.port id).answers ∧
      Port.Move (.returns request) (x.port id) ((x.fetch id request).1.port id) := by
  cases found : (x.port id).answers.find? fun answer => answer.1 == request with
  | none => simp [fetch, found] at fetched
  | some answer =>
    have same : answer.2 = result := by simpa [fetch, found] using fetched
    have key : answer.1 = request := by simpa using List.find?_some found
    simp only [fetch, found]
    rw [port_updatePort rfl]
    refine ⟨?_, .fetched _ request⟩
    rw [← same, ← key]
    exact List.mem_of_find?_eq_some found

theorem fetch_none {request : RequestId} (nothing : (x.fetch id request).2 = none) :
    ∀ result, (request, result) ∉ (x.port id).answers := by
  intro result member
  cases found : (x.port id).answers.find? fun answer => answer.1 == request with
  | none =>
    have apart := List.find?_eq_none.mp found _ member
    simp at apart
  | some answer => simp [fetch, found] at nothing

end Exchange

namespace Traffic

variable {config : RelayConfig} {started : Nat} {s after : Traffic}

/-- When a step may do something to a port. -/
def Licensed (s after : Traffic) (id : PortId) : Port.Deed → Prop
  | .nothing => True
  | .closes => ∀ caller ∈ s.callers, caller.port ≠ id
  | .calls => s.exchange.isRunning = true
  | .returns request => ∀ caller ∈ after.callers, caller.key ≠ (id, request)
  | .gets messages => s.exchange.isRunning = true ∧
      ∀ message ∈ messages, ∃ turn ∈ after.turns, .toPort id message ∈ turn.sent

def Treats (s after : Traffic) (id : PortId) : Prop :=
  ∃ deed, Port.Move deed (s.exchange.port id) (after.exchange.port id) ∧ Licensed s after id deed

theorem Treats.silent {id : PortId}
    (move : Port.Move .nothing (s.exchange.port id) (after.exchange.port id)) :
    Treats s after id :=
  ⟨.nothing, move, trivial⟩

theorem Treats.same {id : PortId} (same : after.exchange.port id = s.exchange.port id) :
    Treats s after id :=
  .silent (same ▸ .same _)

/-- A step that leaves all ports but one alone. -/
theorem Treats.of_one {id port : PortId} (treats : Treats s after port)
    (others : ∀ other, other ≠ port → after.exchange.port other = s.exchange.port other) :
    Treats s after id := by
  by_cases touched : id = port
  · exact touched ▸ treats
  · exact .same (others id touched)

theorem not_mem_without {caller other : Caller} (member : other ∈ s.without caller) :
    other.key ≠ caller.key := by
  simpa using (List.mem_filter.mp member).2

/-- A step does to a port only what it may. -/
theorem Step.treats (step : Step config s after) (id : PortId) : Treats s after id := by
  cases step with
  | wait time => exact .same rfl
  | openPort =>
    have none : ¬ s.exchange.Has (s.exchange.ports.length + 1) := fun known =>
      absurd known.2 (Nat.not_succ_le_self _)
    refine .of_one (.silent ?_) fun other old => Exchange.openPort_port_old old
    rw [Exchange.openPort_port_new, Exchange.port_of_not_has none]
    exact .fresh _
  | closePort port isOpen unused =>
    refine .of_one ⟨.closes, ?_, unused⟩ fun other apart => Exchange.closePort_port_of_ne apart
    rw [Exchange.closePort_port_self (Exchange.has_of_isOpen isOpen)]
    exact .closed _
  | tell message aside => exact .same (Exchange.tell_port _)
  | send port command request isOpen accepted =>
    obtain ⟨running, rfl, _, _, _, others, self⟩ :=
      Exchange.send_accepted (Exchange.has_of_isOpen isOpen) accepted
    refine .of_one ⟨.calls, ?_, running⟩ others
    rw [self]
    exact .asked _
  | refuse port command isOpen refused =>
    obtain ⟨_, same⟩ := Exchange.send_refused refused
    refine .of_one (.silent ?_) fun other apart => by
      rw [same, Exchange.port_updatePort_of_ne apart]
    rw [same, Exchange.port_updatePort_self (Exchange.has_of_isOpen isOpen)]
    exact .refused _
  | fetch caller result waits fetched =>
    exact .of_one ⟨.returns caller.request, (Exchange.fetch_move fetched).2,
      fun other member => not_mem_without member⟩ (Exchange.fetch_within _).others
  | giveUp caller waits late nothing =>
    refine .of_one ⟨.returns caller.request, ?_, fun other member => not_mem_without member⟩
      (Exchange.giveUp_within _).others
    rw [Exchange.giveUp_port]
    exact .gaveUp _ _
  | abandon caller => exact .same rfl
  | sort port isOpen =>
    exact .of_one (.silent (Exchange.sortNext_move (Exchange.has_of_isOpen isOpen)))
      Exchange.sortNext_within.others
  | hangUp port isOpen sorted cut =>
    exact .of_one (.silent (Exchange.hangUp_move (Exchange.has_of_isOpen isOpen) cut))
      Exchange.hangUp_within.others
  | drain port isOpen =>
    refine .of_one (.silent ?_) Exchange.drainNotes_within.others
    simp only [Exchange.drainNotes]
    rw [Exchange.port_updatePort rfl]
    exact .drained _
  | link move => exact .same ((Exchange.moveLink_links move).port id)
  | turn intake input offered expected =>
    have turned := Exchange.takeIn_turned offered expected
    have running : s.exchange.isRunning = true := by
      by_contra stopped
      have ended : s.exchange.orchestrator.activity = .stopped := by
        simpa [Exchange.isRunning] using stopped
      exact Orchestrator.not_expects_of_stopped ended input expected
    refine ⟨.gets (addressedTo id (s.exchange.turn s.now input).sent), ?_, running, ?_⟩
    · rw [turned.port id]
      exact .received _ _ _
    · intro message member
      refine ⟨s.exchange.turn s.now input, ?_, mem_addressedTo.mp member⟩
      simp [turns, turnsOf]

end Traffic

namespace Port

variable {deed : Deed} {port after : Port}

/-- Who waits or has an answer has asked, and nobody waits for an answer that has come. -/
structure Tidy (port : Port) : Prop where
  waiting : ∀ request ∈ port.waiters, request ≤ port.lastRequest
  answered : ∀ answer ∈ port.answers, answer.1 ≤ port.lastRequest ∧ answer.1 ∉ port.waiters

/-- The request has been made, and nobody waits for its answer. -/
def Past (port : Port) (request : RequestId) : Prop :=
  request ≤ port.lastRequest ∧ request ∉ port.waiters

/-- The request waits for its answer, or the answer waits to be fetched. -/
def Awaits (port : Port) (request : RequestId) : Prop :=
  request ∈ port.waiters ∨ ∃ result, (request, result) ∈ port.answers

namespace Move

theorem past (move : Move deed port after) {request : RequestId} (past : port.Past request) :
    after.Past request := by
  obtain ⟨made, settled⟩ := past
  cases move with
  | asked =>
    refine ⟨Nat.le_succ_of_le made, ?_⟩
    simp only [List.mem_append, List.mem_singleton, not_or]
    exact ⟨settled, Nat.ne_of_lt (Nat.lt_succ_of_le made)⟩
  | refused => exact ⟨Nat.le_succ_of_le made, settled⟩
  | gaveUp _ other => exact ⟨made, fun waits => settled (List.mem_filter.mp waits).1⟩
  | answered _ other result rest waiting waits =>
    exact ⟨made, fun waits => settled (List.mem_filter.mp waits).1⟩
  | hungUp _ answers cut all => exact ⟨made, List.not_mem_nil⟩
  | received _ messages isConnected =>
    unfold Port.receive
    split <;> exact ⟨made, settled⟩
  | _ => exact ⟨made, settled⟩

theorem tidy (move : Move deed port after) (tidy : port.Tidy) : after.Tidy := by
  have kept : ∀ answer ∈ port.answers, after.Past answer.1 := fun answer member =>
    move.past (tidy.answered answer member)
  cases move with
  | asked =>
    refine ⟨?_, kept⟩
    intro request waits
    rcases List.mem_append.mp waits with before | new
    · exact Nat.le_succ_of_le (tidy.waiting request before)
    · exact Nat.le_of_eq (List.mem_singleton.mp new)
  | refused => exact ⟨fun request waits => Nat.le_succ_of_le (tidy.waiting request waits), kept⟩
  | fetched _ request =>
    exact ⟨tidy.waiting, fun answer member => kept answer (List.mem_filter.mp member).1⟩
  | gaveUp _ request =>
    exact ⟨fun other waits => tidy.waiting other (List.mem_filter.mp waits).1, kept⟩
  | answered _ request result rest waiting waits =>
    refine ⟨fun other waits => tidy.waiting other (List.mem_filter.mp waits).1, ?_⟩
    intro answer member
    rcases List.mem_append.mp member with before | new
    · exact kept answer before
    · rw [List.mem_singleton.mp new]
      exact ⟨tidy.waiting request waits, by simp⟩
  | hungUp _ answers cut all =>
    refine ⟨fun other waits => absurd waits List.not_mem_nil, ?_⟩
    intro answer member
    rcases (all answer).mp member with before | ⟨waits, _⟩
    · exact kept answer before
    · exact ⟨tidy.waiting answer.1 waits, List.not_mem_nil⟩
  | received _ messages isConnected =>
    unfold Port.receive
    split <;> exact ⟨tidy.waiting, tidy.answered⟩
  | _ => exact ⟨tidy.waiting, tidy.answered⟩

theorem awaits (move : Move deed port after) {request : RequestId}
    (other : deed ≠ .returns request) (awaits : port.Awaits request) : after.Awaits request := by
  cases move with
  | asked => exact awaits.imp (List.mem_append_left _) id
  | fetched _ gone =>
    refine awaits.imp id ?_
    rintro ⟨result, member⟩
    exact ⟨result, List.mem_filter.mpr ⟨member, by simpa using fun same => other (by rw [same])⟩⟩
  | gaveUp _ gone =>
    refine awaits.imp ?_ id
    intro waits
    exact List.mem_filter.mpr ⟨waits, by simpa using fun same => other (by rw [same])⟩
  | answered _ found result rest waiting waits =>
    rcases awaits with still | ⟨held, member⟩
    · by_cases same : request = found
      · rw [same]
        exact .inr ⟨result, List.mem_append_right _ (List.mem_singleton.mpr rfl)⟩
      · exact .inl (List.mem_filter.mpr ⟨still, by simpa using same⟩)
    · exact .inr ⟨held, List.mem_append_left _ member⟩
  | hungUp _ answers cut all =>
    rcases awaits with still | ⟨held, member⟩
    · exact .inr ⟨.error .closed, (all _).mpr (.inr ⟨still, rfl⟩)⟩
    · exact .inr ⟨held, (all _).mpr (.inl member)⟩
  | received _ messages isConnected =>
    unfold Port.receive
    split <;> exact awaits
  | fresh isConnected => exact awaits
  | _ => exact awaits

theorem isOpen (move : Move deed port after) (stays : deed ≠ .closes)
    (isOpen : port.isOpen = true) : after.isOpen = true := by
  cases move with
  | closed => exact absurd rfl stays
  | received _ messages isConnected =>
    unfold Port.receive
    split <;> exact isOpen
  | fresh isConnected => rfl
  | _ => exact isOpen

/-- Where nobody waits and nothing is on its way, it stays so unless something is asked or sent. -/
theorem quiet (move : Move deed port after) (silent : deed ≠ .calls)
    (nothing : ∀ messages, deed ≠ .gets messages) (settled : port.waiters = [])
    (sorted : port.inbox = []) : after.waiters = [] ∧ after.inbox = [] := by
  cases move with
  | asked => exact absurd rfl silent
  | received _ messages isConnected => exact absurd rfl (nothing messages)
  | gaveUp _ request => exact ⟨by simp [settled], sorted⟩
  | answered _ request result rest waiting waits =>
    rw [sorted] at waiting
    cases waiting
  | late _ request result rest waiting settled =>
    rw [sorted] at waiting
    cases waiting
  | noted _ request event rest waiting =>
    rw [sorted] at waiting
    cases waiting
  | hungUp _ answers cut all => exact ⟨rfl, sorted⟩
  | closed => exact ⟨settled, rfl⟩
  | _ => exact ⟨settled, sorted⟩

theorem inbox (move : Move deed port after) {message : PortMessage}
    (member : message ∈ after.inbox) :
    message ∈ port.inbox ∨ ∃ messages, deed = .gets messages ∧ message ∈ messages := by
  cases move with
  | received _ messages isConnected =>
    unfold Port.receive at member
    split at member
    · rcases List.mem_append.mp member with before | new
      · exact .inl before
      · exact .inr ⟨messages, rfl, new⟩
    · exact .inl member
  | closed => cases member
  | answered _ request result rest waiting waits =>
    rw [waiting]
    exact .inl (List.mem_cons_of_mem _ member)
  | late _ request result rest waiting settled =>
    rw [waiting]
    exact .inl (List.mem_cons_of_mem _ member)
  | noted _ request event rest waiting =>
    rw [waiting]
    exact .inl (List.mem_cons_of_mem _ member)
  | _ => exact .inl member

theorem answers (move : Move deed port after) {request : RequestId}
    {result : Except RelayError Reply} (member : (request, result) ∈ after.answers) :
    (request, result) ∈ port.answers ∨ .response request result ∈ port.inbox ∨
      request ∈ port.waiters ∧ result = .error .closed ∧ port.isConnected = false := by
  cases move with
  | fetched _ gone => exact .inl (List.mem_filter.mp member).1
  | answered _ found carried rest waiting waits =>
    rcases List.mem_append.mp member with before | new
    · exact .inl before
    · obtain ⟨rfl, rfl⟩ := Prod.mk.inj (List.mem_singleton.mp new)
      rw [waiting]
      exact .inr (.inl List.mem_cons_self)
  | hungUp _ answers cut all =>
    rcases (all _).mp member with before | ⟨waits, same⟩
    · exact .inl before
    · exact .inr (.inr ⟨waits, same, cut⟩)
  | received _ messages isConnected =>
    unfold Port.receive at member
    split at member <;> exact .inl member
  | fresh isConnected => cases member
  | _ => exact .inl member

theorem notes (move : Move deed port after) {note : Notification} (member : note ∈ after.notes) :
    note ∈ port.notes ∨ .progress note.request note.event ∈ port.inbox := by
  cases move with
  | noted _ request event rest waiting =>
    rcases List.mem_append.mp member with before | new
    · exact .inl before
    · rw [List.mem_singleton.mp new, waiting]
      exact .inr List.mem_cons_self
  | drained => cases member
  | received _ messages isConnected =>
    unfold Port.receive at member
    split at member <;> exact .inl member
  | fresh isConnected => cases member
  | _ => exact .inl member

end Move

end Port

end BrowserScript.Relay

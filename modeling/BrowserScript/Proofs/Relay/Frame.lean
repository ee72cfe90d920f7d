import BrowserScript.Proofs.Lists
import BrowserScript.Relay.Exchange
import Mathlib.Data.List.GetD
import Mathlib.Tactic.ByContra

/-!
# What the exchange operations touch

Sorting, fetching and giving up touch the mailboxes of one port and nothing else; what the worker
does touches only links; a step of the orchestrator adds to the inboxes of the ports it sends to.
-/

set_option autoImplicit false

namespace BrowserScript.Relay

/-- What a list of sendings puts on its way to a port. -/
def addressedTo (id : PortId) (sent : List Sending) : List PortMessage :=
  sent.filterMap fun
    | .toPort port message => if port = id then some message else none
    | _ => none

theorem mem_addressedTo {id : PortId} {sent : List Sending} {message : PortMessage} :
    message ∈ addressedTo id sent ↔ .toPort id message ∈ sent :=
  mem_filterMap_of_only fun sending => by cases sending <;> simp

/-- A port that its caller has dropped gets nothing. -/
def Port.receive (port : Port) (messages : List PortMessage) : Port :=
  if port.isOpen then { port with inbox := port.inbox ++ messages } else port

namespace Exchange

/-- The port has been opened. -/
def Has (x : Exchange) (id : PortId) : Prop := 0 < id ∧ id ≤ x.ports.length

variable {x y z : Exchange} {id other : PortId}

@[simp] theorem port_wake (party : Party) : (x.wake party).port id = x.port id := by
  cases id <;> rfl

theorem port_congr (same : y.ports = x.ports) : y.port id = x.port id := by
  cases id with
  | zero => rfl
  | succ i => simp only [port, same]

@[simp] theorem updatePort_orchestrator (f : Port → Port) :
    (x.updatePort id f).orchestrator = x.orchestrator := by
  cases id <;> rfl

@[simp] theorem updatePort_inbox (f : Port → Port) : (x.updatePort id f).inbox = x.inbox := by
  cases id <;> rfl

@[simp] theorem updatePort_count (f : Port → Port) :
    (x.updatePort id f).ports.length = x.ports.length := by
  cases id <;> simp [updatePort]

theorem port_updatePort_self (has : x.Has id) (f : Port → Port) :
    (x.updatePort id f).port id = f (x.port id) := by
  cases id with
  | zero => exact absurd has.1 (Nat.lt_irrefl _)
  | succ i =>
    have bound : i < x.ports.length := has.2
    simp [port, updatePort, List.getD_eq_getElem?_getD, bound]

theorem port_updatePort_of_ne (different : other ≠ id) (f : Port → Port) :
    (x.updatePort id f).port other = x.port other := by
  cases id with
  | zero => rfl
  | succ i =>
    cases other with
    | zero => rfl
    | succ j =>
      have apart : i ≠ j := fun same => different (by rw [same])
      simp [port, updatePort, List.getD_eq_getElem?_getD, apart]

theorem port_of_not_has (missing : ¬ x.Has id) : x.port id = default := by
  cases id with
  | zero => rfl
  | succ i =>
    have beyond : x.ports.length ≤ i := by
      simp [Has] at missing
      omega
    simp [port, List.getElem?_eq_none beyond]

theorem has_of_isOpen (isOpen : (x.port id).isOpen = true) : x.Has id := by
  by_contra missing
  rw [port_of_not_has missing] at isOpen
  cases isOpen

/-- What would not change a port that has never been opened, does not either. -/
theorem port_updatePort {f : Port → Port} (blank : f default = default) :
    (x.updatePort id f).port id = f (x.port id) := by
  by_cases has : x.Has id
  · exact port_updatePort_self has f
  · have still : ¬ (x.updatePort id f).Has id := by
      unfold Has
      rw [updatePort_count]
      exact has
    rw [port_of_not_has still, port_of_not_has has, blank]

theorem port_updatePort_inbox {f : Port → Port} (keeps : ∀ port, (f port).inbox = port.inbox) :
    ((x.updatePort id f).port id).inbox = (x.port id).inbox := by
  by_cases has : x.Has id
  · rw [port_updatePort_self has, keeps]
  · have still : ¬ (x.updatePort id f).Has id := by
      unfold Has
      rw [updatePort_count]
      exact has
    rw [port_of_not_has still, port_of_not_has has]

/-! ## Operations on one port -/

/-- Nothing but the mailboxes of one port has changed. -/
structure Within (id : PortId) (before after : Exchange) : Prop where
  orchestrator : after.orchestrator = before.orchestrator
  inbox : after.inbox = before.inbox
  count : after.ports.length = before.ports.length
  others : ∀ other, other ≠ id → after.port other = before.port other
  lastRequest : (after.port id).lastRequest = (before.port id).lastRequest
  isOpen : (after.port id).isOpen = (before.port id).isOpen
  isConnected : (after.port id).isConnected = (before.port id).isConnected

namespace Within

theorem refl (id : PortId) (x : Exchange) : Within id x x :=
  ⟨rfl, rfl, rfl, fun _ _ => rfl, rfl, rfl, rfl⟩

theorem trans (first : Within id x y) (second : Within id y z) : Within id x z where
  orchestrator := second.orchestrator.trans first.orchestrator
  inbox := second.inbox.trans first.inbox
  count := second.count.trans first.count
  others := fun other different =>
    (second.others other different).trans (first.others other different)
  lastRequest := second.lastRequest.trans first.lastRequest
  isOpen := second.isOpen.trans first.isOpen
  isConnected := second.isConnected.trans first.isConnected

theorem wake (party : Party) : Within id x (x.wake party) where
  orchestrator := rfl
  inbox := rfl
  count := rfl
  others := fun _ _ => port_wake party
  lastRequest := by rw [port_wake]
  isOpen := by rw [port_wake]
  isConnected := by rw [port_wake]

theorem updatePort (f : Port → Port)
    (keeps : ∀ port, (f port).lastRequest = port.lastRequest ∧ (f port).isOpen = port.isOpen ∧
      (f port).isConnected = port.isConnected) : Within id x (x.updatePort id f) := by
  have own : (x.updatePort id f).port id = f (x.port id) ∨
      (x.updatePort id f).port id = x.port id := by
    by_cases has : x.Has id
    · exact .inl (port_updatePort_self has f)
    · have still : ¬ (x.updatePort id f).Has id := by
        unfold Has
        rw [updatePort_count]
        exact has
      exact .inr (by rw [port_of_not_has still, port_of_not_has has])
  refine ⟨updatePort_orchestrator f, updatePort_inbox f, updatePort_count f,
    fun other different => port_updatePort_of_ne different f, ?_, ?_, ?_⟩
  · rcases own with changed | same
    · rw [changed, (keeps _).1]
    · rw [same]
  · rcases own with changed | same
    · rw [changed, (keeps _).2.1]
    · rw [same]
  · rcases own with changed | same
    · rw [changed, (keeps _).2.2]
    · rw [same]

theorem has (within : Within id x y) : y.Has other ↔ x.Has other := by
  unfold Has
  rw [within.count]

end Within

theorem giveUp_within (request : RequestId) : Within id x (x.giveUp id request) :=
  .updatePort _ fun _ => ⟨rfl, rfl, rfl⟩

theorem deliver_within (request : RequestId) (result : Except RelayError Reply) :
    Within id x (x.deliver id request result) := by
  unfold deliver
  split
  · refine .trans (.trans (giveUp_within request) ?_) (.wake _)
    exact .updatePort _ fun _ => ⟨rfl, rfl, rfl⟩
  · exact .refl id x

theorem sort_within (message : PortMessage) : Within id x (x.sort id message) := by
  cases message with
  | response request result => exact deliver_within request result
  | progress request event =>
    refine .trans ?_ (.wake _)
    exact .updatePort _ fun _ => ⟨rfl, rfl, rfl⟩

theorem sortNext_within : Within id x (x.sortNext id) := by
  unfold sortNext
  split
  · exact .refl id x
  · refine .trans ?_ (sort_within _)
    exact .updatePort _ fun _ => ⟨rfl, rfl, rfl⟩

theorem deliverAll_within (requests : List RequestId) (result : Except RelayError Reply) :
    Within id x (requests.foldl (fun x request => x.deliver id request result) x) := by
  induction requests generalizing x with
  | nil => exact .refl id x
  | cons request rest induction => exact (deliver_within request result).trans induction

theorem hangUp_within : Within id x (x.hangUp id) := (deliverAll_within _ _).trans (.wake _)

theorem fetch_within (request : RequestId) : Within id x (x.fetch id request).1 := by
  unfold fetch
  split
  · exact .updatePort _ fun _ => ⟨rfl, rfl, rfl⟩
  · exact .refl id x

theorem drainNotes_within : Within id x (x.drainNotes id).1 :=
  .updatePort _ fun _ => ⟨rfl, rfl, rfl⟩

theorem sort_inbox (message : PortMessage) :
    ((x.sort id message).port id).inbox = (x.port id).inbox := by
  cases message with
  | response request result =>
    simp only [sort, deliver]
    split
    · rw [port_wake, port_updatePort_inbox, giveUp, port_updatePort_inbox]
      · intro port
        rfl
      · intro port
        rfl
    · rfl
  | progress request event =>
    simp only [sort]
    rw [port_wake, port_updatePort_inbox]
    intro port
    rfl

/-- Sorting takes the messages one by one. -/
theorem sortNext_inbox : ((x.sortNext id).port id).inbox = (x.port id).inbox.tail := by
  cases waiting : (x.port id).inbox with
  | nil => simp [sortNext, waiting]
  | cons message rest =>
    simp only [sortNext, waiting]
    rw [sort_inbox]
    by_cases has : x.Has id
    · rw [port_updatePort_self has]
      rfl
    · rw [port_of_not_has has] at waiting
      cases waiting

/-! ## What becomes of a request that waits -/

theorem giveUp_port (request : RequestId) :
    (x.giveUp id request).port id =
      { x.port id with
        waiters := (x.port id).waiters.filter fun waiter => waiter != request } :=
  port_updatePort rfl

theorem deliver_port (has : x.Has id) {request : RequestId} (result : Except RelayError Reply)
    (waits : request ∈ (x.port id).waiters) :
    (x.deliver id request result).port id =
      { x.port id with
        waiters := (x.port id).waiters.filter fun waiter => waiter != request
        answers := (x.port id).answers ++ [(request, result)] } := by
  have still : (x.giveUp id request).Has id := (giveUp_within request).has.mpr has
  unfold deliver
  rw [if_pos (by simpa using waits), port_wake, port_updatePort_self still, giveUp_port]

theorem deliver_of_not_waiting {request : RequestId} (result : Except RelayError Reply)
    (settled : request ∉ (x.port id).waiters) : x.deliver id request result = x := by
  unfold deliver
  rw [if_neg (by simpa using settled)]

/-- All of some requests are answered alike: those of them that wait, wait no more. -/
theorem deliverAll_port (has : x.Has id) (requests : List RequestId)
    (result : Except RelayError Reply) :
    let after := requests.foldl (fun x request => x.deliver id request result) x
    (after.port id).waiters =
        (x.port id).waiters.filter (fun waiter => !requests.contains waiter) ∧
      (after.port id).inbox = (x.port id).inbox ∧ (after.port id).notes = (x.port id).notes ∧
      ∀ answer, answer ∈ (after.port id).answers ↔ answer ∈ (x.port id).answers ∨
        answer.1 ∈ (x.port id).waiters ∧ answer.1 ∈ requests ∧ answer.2 = result := by
  induction requests generalizing x with
  | nil => exact ⟨(List.filter_eq_self.mpr (by simp)).symm, rfl, rfl, by simp⟩
  | cons request rest induction =>
    have still : (x.deliver id request result).Has id := (deliver_within request result).has.mpr has
    obtain ⟨waiters, inbox, notes, answers⟩ := induction still
    dsimp only [List.foldl_cons]
    by_cases waits : request ∈ (x.port id).waiters
    · rw [deliver_port has result waits] at waiters inbox notes answers
      refine ⟨?_, inbox, notes, ?_⟩
      · rw [waiters, List.filter_filter]
        congr 1
        funext waiter
        by_cases same : waiter = request <;> simp [same]
      · intro answer
        rw [answers]
        obtain ⟨key, value⟩ := answer
        by_cases same : key = request
        · subst same
          simp [waits]
        · simp [same]
    · rw [deliver_of_not_waiting result waits] at waiters inbox notes answers ⊢
      refine ⟨?_, inbox, notes, ?_⟩
      · rw [waiters]
        apply List.filter_congr
        intro waiter member
        have apart : waiter ≠ request := fun same => waits (same ▸ member)
        simp [apart]
      · intro answer
        rw [answers]
        constructor
        · rintro (before | ⟨waiting, listed, same⟩)
          · exact .inl before
          · exact .inr ⟨waiting, List.mem_cons_of_mem _ listed, same⟩
        · rintro (before | ⟨waiting, listed, same⟩)
          · exact .inl before
          · rcases List.mem_cons.mp listed with rfl | later
            · exact absurd waiting waits
            · exact .inr ⟨waiting, later, same⟩

/-- When a port hangs up nobody waits on it any more, and who did is told that it is closed. -/
theorem hangUp_port (has : x.Has id) :
    ((x.hangUp id).port id).waiters = [] ∧ ((x.hangUp id).port id).inbox = (x.port id).inbox ∧
      ((x.hangUp id).port id).notes = (x.port id).notes ∧
      ∀ answer, answer ∈ ((x.hangUp id).port id).answers ↔ answer ∈ (x.port id).answers ∨
        answer.1 ∈ (x.port id).waiters ∧ answer.2 = .error .closed := by
  obtain ⟨waiters, inbox, notes, answers⟩ :=
    deliverAll_port has (x.port id).waiters (.error .closed)
  unfold hangUp
  rw [port_wake]
  refine ⟨?_, inbox, notes, ?_⟩
  · rw [waiters, List.filter_eq_nil_iff]
    simp
  · intro answer
    rw [answers]
    simp

/-! ## Steps of the orchestrator -/

/-- What a fold leaves alone, each of its steps leaves alone. -/
theorem foldl_keeps {Item View : Type} (view : Exchange → View)
    (f : Exchange → Item → Exchange) (keeps : ∀ x item, view (f x item) = view x)
    (items : List Item) (x : Exchange) : view (items.foldl f x) = view x := by
  induction items generalizing x with
  | nil => rfl
  | cons item rest induction =>
    rw [List.foldl_cons, induction, keeps]

/-- Links aside, the exchange is the same. -/
structure LinksOnly (before after : Exchange) : Prop where
  orchestrator : after.orchestrator = before.orchestrator
  inbox : after.inbox = before.inbox
  ports : after.ports = before.ports

namespace LinksOnly

theorem refl (x : Exchange) : LinksOnly x x := ⟨rfl, rfl, rfl⟩

theorem trans (first : LinksOnly x y) (second : LinksOnly y z) : LinksOnly x z where
  orchestrator := second.orchestrator.trans first.orchestrator
  inbox := second.inbox.trans first.inbox
  ports := second.ports.trans first.ports

theorem port (only : LinksOnly x y) (id : PortId) : y.port id = x.port id := port_congr only.ports

end LinksOnly

theorem dropUnused_links : LinksOnly x x.dropUnused := by
  have same : (x.dropUnused.orchestrator, x.dropUnused.inbox, x.dropUnused.ports) =
      (x.orchestrator, x.inbox, x.ports) := by
    apply foldl_keeps fun x => (x.orchestrator, x.inbox, x.ports)
    intro x id
    split <;> rfl
  obtain ⟨orchestrator, inbox, ports⟩ := by simpa only [Prod.mk.injEq] using same
  exact ⟨orchestrator, inbox, ports⟩

theorem carryOut_orchestrator (sending : Sending) :
    (x.carryOut sending).orchestrator = x.orchestrator := by
  cases sending <;> simp only [carryOut]
  · split <;> simp [wake]
  · rfl
  · rfl

theorem carryOut_inbox (sending : Sending) : (x.carryOut sending).inbox = x.inbox := by
  cases sending <;> simp only [carryOut]
  · split <;> simp [wake]
  · rfl
  · rfl

theorem carryOut_count (sending : Sending) :
    (x.carryOut sending).ports.length = x.ports.length := by
  cases sending <;> simp only [carryOut]
  · split <;> simp [wake]
  · rfl
  · rfl

theorem carryOut_port (sending : Sending) :
    (x.carryOut sending).port id = (x.port id).receive (addressedTo id [sending]) := by
  have nothing : (x.port id).receive [] = x.port id := by simp [Port.receive]
  cases sending with
  | toPort target message =>
    by_cases same : target = id
    · subst same
      by_cases isOpen : (x.port target).isOpen = true
      · simp only [carryOut, if_pos isOpen, port_wake]
        rw [port_updatePort_self (has_of_isOpen isOpen)]
        simp [Port.receive, isOpen, addressedTo]
      · simp [carryOut, isOpen, Port.receive]
    · have none : addressedTo id [.toPort target message] = [] := by simp [addressedTo, same]
      rw [none, nothing]
      simp only [carryOut]
      split
      · rw [port_wake, port_updatePort_of_ne (Ne.symm same)]
      · rfl
  | toWorker link request => exact (port_congr rfl).trans nothing.symm
  | connect => exact nothing.symm
  | pause ms => exact nothing.symm
  | pendingCount asker count => exact (port_congr rfl).trans nothing.symm

theorem receive_append (port : Port) (first second : List PortMessage) :
    (port.receive first).receive second = port.receive (first ++ second) := by
  unfold Port.receive
  by_cases isOpen : port.isOpen = true <;> simp [isOpen]

theorem carryOutAll_port (sent : List Sending) :
    (sent.foldl carryOut x).port id = (x.port id).receive (addressedTo id sent) := by
  induction sent generalizing x with
  | nil => simp [Port.receive, addressedTo]
  | cons sending rest induction =>
    have split : addressedTo id (sending :: rest) =
        addressedTo id [sending] ++ addressedTo id rest := by
      unfold addressedTo
      rw [← List.filterMap_append]
      rfl
    rw [List.foldl_cons, induction, carryOut_port, receive_append, split]

variable (step : Orchestrator.Step)

@[simp] theorem apply_orchestrator : (x.apply step).orchestrator = step.1 := by
  unfold apply
  rw [dropUnused_links.orchestrator]
  exact foldl_keeps orchestrator carryOut (fun _ _ => carryOut_orchestrator _) step.2 _

@[simp] theorem apply_inbox : (x.apply step).inbox = x.inbox := by
  unfold apply
  rw [dropUnused_links.inbox]
  exact foldl_keeps inbox carryOut (fun _ _ => carryOut_inbox _) step.2 _

@[simp] theorem apply_count : (x.apply step).ports.length = x.ports.length := by
  unfold apply
  rw [dropUnused_links.ports]
  exact foldl_keeps (fun x => x.ports.length) carryOut (fun _ _ => carryOut_count _) step.2 _

/-- A step of the orchestrator brings a port what the step addresses to it. -/
theorem apply_port : (x.apply step).port id = (x.port id).receive (addressedTo id step.2) := by
  unfold apply
  rw [dropUnused_links.port, carryOutAll_port, port_congr]
  rfl

/-! ## The end of the orchestrator -/

private theorem wakeAll_keeps (parties : List Party) : LinksOnly x (parties.foldl wake x) := by
  induction parties generalizing x with
  | nil => exact .refl x
  | cons party rest induction =>
    have woken : LinksOnly x (x.wake party) := ⟨rfl, rfl, rfl⟩
    exact woken.trans induction

theorem settleStop_of_running (running : x.isRunning = true) : x.settleStop = x := by
  unfold settleStop
  rw [if_pos running]

/-- Once the orchestrator has stopped, its inbox is empty and all ports are cut off. -/
theorem settleStop_of_stopped (stopped : x.isRunning = false) :
    x.settleStop.orchestrator = x.orchestrator ∧ x.settleStop.inbox = [] ∧
      x.settleStop.ports = x.ports.map fun port => { port with isConnected := false } := by
  unfold settleStop
  rw [if_neg (by simp [stopped])]
  exact ⟨(wakeAll_keeps _).orchestrator, (wakeAll_keeps _).inbox, (wakeAll_keeps _).ports⟩

theorem port_of_map {f : Port → Port} (blank : f default = default)
    (same : y.ports = x.ports.map f) : y.port id = f (x.port id) := by
  cases id with
  | zero => exact blank.symm
  | succ i =>
    simp only [port, same, List.getD_eq_getElem?_getD, List.getElem?_map]
    cases x.ports[i]? with
    | none => exact blank.symm
    | some found => rfl

/-! ## Where mailboxes and links do not matter -/

/-- Nothing has changed but mailboxes and links. -/
structure Alike (before after : Exchange) : Prop where
  orchestrator : after.orchestrator = before.orchestrator
  inbox : after.inbox = before.inbox
  count : after.ports.length = before.ports.length
  lastRequest : ∀ id, (after.port id).lastRequest = (before.port id).lastRequest
  isOpen : ∀ id, (after.port id).isOpen = (before.port id).isOpen
  isConnected : ∀ id, (after.port id).isConnected = (before.port id).isConnected

theorem Within.alike (within : Within id x y) : Alike x y := by
  have same : ∀ other, other = id ∨ y.port other = x.port other := by
    intro other
    by_cases own : other = id
    · exact .inl own
    · exact .inr (within.others other own)
  refine ⟨within.orchestrator, within.inbox, within.count, ?_, ?_, ?_⟩
  · intro other
    rcases same other with rfl | same
    · exact within.lastRequest
    · rw [same]
  · intro other
    rcases same other with rfl | same
    · exact within.isOpen
    · rw [same]
  · intro other
    rcases same other with rfl | same
    · exact within.isConnected
    · rw [same]

theorem LinksOnly.alike (only : LinksOnly x y) : Alike x y where
  orchestrator := only.orchestrator
  inbox := only.inbox
  count := by rw [only.ports]
  lastRequest := fun id => by rw [only.port id]
  isOpen := fun id => by rw [only.port id]
  isConnected := fun id => by rw [only.port id]

/-! ## Operations that tell the orchestrator something -/

@[simp] theorem tell_orchestrator (message : Message) :
    (x.tell message).orchestrator = x.orchestrator := by
  unfold tell
  split <;> rfl

@[simp] theorem tell_ports (message : Message) : (x.tell message).ports = x.ports := by
  unfold tell
  split <;> rfl

@[simp] theorem tell_port (message : Message) : (x.tell message).port id = x.port id :=
  port_congr (tell_ports message)

theorem tell_inbox (message : Message) :
    (x.tell message).inbox = x.inbox ++ if x.isRunning then [message] else [] := by
  unfold tell
  split <;> simp [wake]

/-- A port as it is opened. -/
def freshPort (x : Exchange) : Port := ⟨0, [], [], [], [], true, x.isRunning⟩

theorem openPort_ports : x.openPort.1.ports = x.ports ++ [x.freshPort] := by
  simp [openPort, freshPort, wake]

theorem openPort_orchestrator : x.openPort.1.orchestrator = x.orchestrator := by
  simp [openPort, wake]

theorem openPort_inbox :
    x.openPort.1.inbox =
      x.inbox ++ if x.isRunning then [.openPort (x.ports.length + 1)] else [] := by
  simp [openPort, wake, tell_inbox, isRunning]

theorem openPort_port_new : x.openPort.1.port (x.ports.length + 1) = x.freshPort := by
  simp [port, openPort_ports]

theorem openPort_port_old (old : id ≠ x.ports.length + 1) : x.openPort.1.port id = x.port id := by
  cases id with
  | zero => rfl
  | succ i =>
    simp only [port, openPort_ports, List.getD_eq_getElem?_getD]
    by_cases bound : i < x.ports.length
    · rw [List.getElem?_append_left bound]
    · have beyond : x.ports.length < i := by
        have apart : i ≠ x.ports.length := fun same => old (by rw [same])
        omega
      rw [List.getElem?_eq_none (by simp; omega), List.getElem?_eq_none (by omega)]

theorem closePort_port_self (has : x.Has id) :
    (x.closePort id).port id = { x.port id with isOpen := false, inbox := [] } := by
  unfold closePort
  rw [tell_port, port_updatePort_self has]

theorem closePort_port_of_ne {other : PortId} (different : other ≠ id) :
    (x.closePort id).port other = x.port other := by
  unfold closePort
  rw [tell_port, port_updatePort_of_ne different]

theorem send_of_stopped (stopped : x.isRunning = false) (command : Command) :
    (x.send id command).2 = none := by
  have still : (x.updatePort id fun port =>
      { port with lastRequest := (x.port id).lastRequest + 1 }).isRunning = false := by
    simpa [isRunning] using stopped
  simp [send, still]

/-- A request is made when the orchestrator is running, and it is the next of its port. -/
theorem send_accepted {command : Command} {request : RequestId} (has : x.Has id)
    (accepted : (x.send id command).2 = some request) :
    x.isRunning = true ∧ request = (x.port id).lastRequest + 1 ∧
      (x.send id command).1.orchestrator = x.orchestrator ∧
      (x.send id command).1.inbox = x.inbox ++ [.request id request command] ∧
      (x.send id command).1.ports.length = x.ports.length ∧
      (∀ other, other ≠ id → (x.send id command).1.port other = x.port other) ∧
      (x.send id command).1.port id =
        { x.port id with
          lastRequest := request, waiters := (x.port id).waiters ++ [request] } := by
  by_cases running : x.isRunning = true
  · have still : (x.updatePort id fun port =>
        { port with lastRequest := (x.port id).lastRequest + 1 }).isRunning = true := by
      simpa [isRunning] using running
    have same : request = (x.port id).lastRequest + 1 := by
      simp only [send, still, if_true, Option.some.injEq] at accepted
      exact accepted.symm
    subst same
    have shape : (x.send id command).1 =
        ((x.updatePort id fun port =>
          { port with lastRequest := (x.port id).lastRequest + 1 }).updatePort id fun port =>
            { port with waiters := port.waiters ++ [(x.port id).lastRequest + 1] }).tell
          (.request id ((x.port id).lastRequest + 1) command) := by
      simp only [send, still, if_true]
    rw [shape]
    refine ⟨running, rfl, by simp, ?_, by simp, ?_, ?_⟩
    · have goesOn : x.isRunning = true := running
      simp only [isRunning] at goesOn
      simp [tell_inbox, isRunning, goesOn]
    · intro other different
      rw [tell_port, port_updatePort_of_ne different, port_updatePort_of_ne different]
    · have known : (x.updatePort id fun port =>
          { port with lastRequest := (x.port id).lastRequest + 1 }).Has id := by
        simpa [Has] using has
      rw [tell_port, port_updatePort_self known, port_updatePort_self has]
  · rw [send_of_stopped (by simpa using running) command] at accepted
    cases accepted

/-- A send that nobody takes leaves a trace in the numbering only. -/
theorem send_refused {command : Command}
    (refused : (x.send id command).2 = none) :
    x.isRunning = false ∧
      (x.send id command).1 = x.updatePort id fun port =>
        { port with lastRequest := (x.port id).lastRequest + 1 } := by
  have same : (x.updatePort id fun port =>
      { port with lastRequest := (x.port id).lastRequest + 1 }).isRunning = x.isRunning := by
    simp [isRunning]
  unfold send at refused ⊢
  dsimp only at refused ⊢
  split at refused
  · cases refused
  · rename_i stopped
    rw [same] at stopped ⊢
    exact ⟨by simpa using stopped, by rw [if_neg stopped]⟩

end Exchange

end BrowserScript.Relay

import BrowserScript.Proofs.Relay.Delivery
import BrowserScript.Proofs.Relay.Passing

/-!
# What a port makes of its messages

The dispatcher of a port sorts the messages of the orchestrator one by one in the order they were
sent: progress goes to the notes, and a reply that a send returns has been sorted before. Main
definitions: `Traffic.notified`, `Traffic.Sorts`. Main result: `Traffic.Reaches.sorts`.
-/

set_option autoImplicit false

namespace BrowserScript.Relay

/-- The notes among some messages of the orchestrator, in order. -/
def notesOf (messages : List PortMessage) : List Notification :=
  messages.filterMap fun
    | .progress request event => some ⟨request, event⟩
    | .response _ _ => none

theorem notesOf_append (first second : List PortMessage) :
    notesOf (first ++ second) = notesOf first ++ notesOf second := List.filterMap_append

/-- To the mailboxes of a port nothing has been added but answers that carry no reply, and nothing
has been taken out but answers. -/
structure Port.Undisturbed (before after : Port) : Prop where
  inbox : after.inbox = before.inbox
  notes : after.notes = before.notes
  answers : ∀ request reply, (request, .ok reply) ∈ after.answers →
    (request, .ok reply) ∈ before.answers
  isOpen : after.isOpen = before.isOpen

theorem Port.Undisturbed.refl (port : Port) : port.Undisturbed port :=
  ⟨rfl, rfl, fun _ _ member => member, rfl⟩

/-- Where only one port has been touched it is enough to look at that one. -/
theorem Port.Undisturbed.of_one {x after : Exchange} {target port : PortId}
    (own : (x.port target).Undisturbed (after.port target))
    (others : ∀ other, other ≠ target → after.port other = x.port other) :
    (x.port port).Undisturbed (after.port port) := by
  by_cases touched : port = target
  · exact touched ▸ own
  · exact others port touched ▸ .refl _

namespace Exchange

variable {x : Exchange} {id : PortId}

theorem sort_notes (has : x.Has id) (message : PortMessage) :
    ((x.sort id message).port id).notes = (x.port id).notes ++ notesOf [message] := by
  cases message with
  | response request result =>
    simp only [sort]
    by_cases waits : request ∈ (x.port id).waiters
    · rw [deliver_port has result waits]
      exact (List.append_nil _).symm
    · rw [deliver_of_not_waiting result waits]
      exact (List.append_nil _).symm
  | progress request event =>
    simp only [sort]
    rw [port_wake, port_updatePort_self has]
    rfl

theorem sort_answers (has : x.Has id) {message : PortMessage} {request : RequestId}
    {result : Except RelayError Reply}
    (member : (request, result) ∈ ((x.sort id message).port id).answers) :
    (request, result) ∈ (x.port id).answers ∨ message = .response request result := by
  cases message with
  | response target brought =>
    simp only [sort] at member
    by_cases waits : target ∈ (x.port id).waiters
    · rw [deliver_port has brought waits] at member
      rcases List.mem_append.mp member with before | new
      · exact .inl before
      · obtain ⟨rfl, rfl⟩ := Prod.mk.inj (List.mem_singleton.mp new)
        exact .inr rfl
    · rw [deliver_of_not_waiting brought waits] at member
      exact .inl member
  | progress target event =>
    simp only [sort] at member
    rw [port_wake, port_updatePort_self has] at member
    exact .inl member

theorem fetch_undisturbed (target : PortId) (request : RequestId) (port : PortId) :
    (x.port port).Undisturbed ((x.fetch target request).1.port port) := by
  unfold fetch
  split
  · refine .of_one ?_ fun other apart => port_updatePort_of_ne apart _
    rw [port_updatePort rfl]
    exact ⟨rfl, rfl, fun _ _ member => (List.mem_filter.mp member).1, rfl⟩
  · exact .refl _

end Exchange

namespace Traffic

variable {config : RelayConfig} {started : Nat} {s after : Traffic}

/-- The notes that the caller has read on a port, in order. -/
def reads (port : PortId) (log : List Event) : List Notification :=
  log.flatMap fun
    | .read target notes => if target = port then notes else []
    | _ => []

/-- All notes that a port has ever got, in order: those its caller has read, and those still there
to be read. -/
def notified (s : Traffic) (port : PortId) : List Notification :=
  reads port s.log ++ (s.exchange.port port).notes

theorem reads_append (port : PortId) (first second : List Event) :
    reads port (first ++ second) = reads port first ++ reads port second := List.flatMap_append

theorem turns_of_log {events : List Event} (log : after.log = s.log ++ events)
    (apart : turnsOf events = []) : after.turns = s.turns := by
  unfold turnsOf at apart
  unfold turns turnsOf
  rw [log, List.filterMap_append, apart, List.append_nil]

/-- A port has sorted these messages: the first of those it was sent, and all but what it still has
to sort while it is open. The notes are the progress among them, and every reply that waits to be
fetched or has been returned is among them. -/
structure Sorts (s : Traffic) (port : PortId) (sorted : List PortMessage) : Prop where
  sent : ∃ lost, sentTo port s.turns = sorted ++ (s.exchange.port port).inbox ++ lost ∧
    ((s.exchange.port port).isOpen = true → lost = [])
  notified : s.notified port = notesOf sorted
  answers : ∀ request reply, (request, .ok reply) ∈ (s.exchange.port port).answers →
    .response request (.ok reply) ∈ sorted
  returned : ∀ now request reply, .returned now port request (.ok reply) ∈ s.log →
    .response request (.ok reply) ∈ sorted

namespace Sorts

variable {port : PortId} {sorted : List PortMessage}

/-- Where only events without notes are logged and no reply comes up, all stays as it is. -/
theorem calm (sorts : Sorts s port sorted) (events : List Event) (log : after.log = s.log ++ events)
    (apart : turnsOf events = []) (unread : reads port events = [])
    (replies : ∀ now request reply, .returned now port request (.ok reply) ∈ events →
      (request, .ok reply) ∈ (s.exchange.port port).answers)
    (undisturbed : (s.exchange.port port).Undisturbed (after.exchange.port port)) :
    Sorts after port sorted where
  sent := by
    obtain ⟨lost, split, stays⟩ := sorts.sent
    refine ⟨lost, ?_, fun isOpen => stays (undisturbed.isOpen ▸ isOpen)⟩
    rw [turns_of_log log apart, undisturbed.inbox]
    exact split
  notified := by
    rw [← sorts.notified, Traffic.notified, Traffic.notified, log, reads_append, unread,
      List.append_nil, undisturbed.notes]
  answers := fun request reply member =>
    sorts.answers request reply (undisturbed.answers request reply member)
  returned := by
    intro now request reply member
    rw [log] at member
    rcases List.mem_append.mp member with before | new
    · exact sorts.returned now request reply before
    · exact sorts.answers request reply (replies now request reply new)

theorem aside (sorts : Sorts s port sorted) (log : after.log = s.log)
    (same : after.exchange.port port = s.exchange.port port) : Sorts after port sorted := by
  refine sorts.calm [] (by rw [log, List.append_nil]) rfl rfl ?_ (same ▸ .refl _)
  intro now request reply member
  cases member

theorem start (config : RelayConfig) (started : Nat) (port : PortId) :
    Sorts (.start config started) port [] := by
  have blank : (Traffic.start config started).exchange.port port = default := by
    cases port <;> rfl
  refine ⟨⟨[], ?_, fun _ => rfl⟩, ?_, ?_, ?_⟩
  · rw [blank]
    rfl
  · rw [Traffic.notified, blank]
    rfl
  · intro request reply member
    rw [blank] at member
    cases member
  · intro now request reply member
    cases member

theorem openPort (sorts : Sorts s port sorted) (reached : Reaches config started s) :
    Sorts { s with
      exchange := s.exchange.openPort.1
      log := s.log ++ [.opened s.exchange.openPort.2] } port sorted := by
  by_cases new : port = s.exchange.ports.length + 1
  · subst new
    -- nothing is sent to a port before it is opened
    have missing : ¬ s.exchange.Has (s.exchange.ports.length + 1) := fun known =>
      absurd known.2 (Nat.not_succ_le_self _)
    have untold : sentTo (s.exchange.ports.length + 1) s.turns = [] := by
      refine reached.run.sentTo_nil fun opened => missing ?_
      exact reached.streamed.spoken.has _ (List.mem_append_left _ opened) _ rfl
    obtain ⟨lost, split, _⟩ := sorts.sent
    rw [untold] at split
    obtain rfl : sorted = [] :=
      (List.append_eq_nil_iff.mp (List.append_eq_nil_iff.mp split.symm).1).1
    have fresh := Exchange.openPort_port_new (x := s.exchange)
    refine ⟨⟨[], ?_, fun _ => rfl⟩, ?_, ?_, ?_⟩
    · rw [turns_of_log rfl rfl, untold, fresh]
      rfl
    · have unread := sorts.notified
      rw [Traffic.notified, Exchange.port_of_not_has missing] at unread
      rw [Traffic.notified, reads_append, fresh, List.append_assoc]
      exact unread
    · intro request reply member
      rw [fresh] at member
      cases member
    · intro now request reply member
      exact sorts.returned now request reply (by simpa using member)
  · exact sorts.calm [.opened s.exchange.openPort.2] rfl rfl rfl (by simp)
      (Exchange.openPort_port_old new ▸ .refl _)

theorem closePort (sorts : Sorts s port sorted) {target : PortId}
    (isOpen : (s.exchange.port target).isOpen = true) :
    Sorts { s with exchange := s.exchange.closePort target } port sorted := by
  by_cases own : port = target
  · subst own
    obtain ⟨lost, split, _⟩ := sorts.sent
    -- what the port has still to sort is lost
    have shut := Exchange.closePort_port_self (Exchange.has_of_isOpen isOpen)
    refine ⟨⟨(s.exchange.port port).inbox ++ lost, ?_, fun still => ?_⟩, ?_, ?_, sorts.returned⟩
    · rw [shut, List.append_nil, ← List.append_assoc]
      exact split
    · rw [shut] at still
      cases still
    · rw [← sorts.notified, Traffic.notified, Traffic.notified, shut]
    · intro request reply member
      rw [shut] at member
      exact sorts.answers request reply member
  · exact sorts.aside rfl (Exchange.closePort_port_of_ne own)

theorem sort (sorts : Sorts s port sorted) {target : PortId}
    (isOpen : (s.exchange.port target).isOpen = true) :
    ∃ sorted, Sorts { s with exchange := s.exchange.sortNext target } port sorted := by
  by_cases own : port = target
  · subst own
    cases waiting : (s.exchange.port port).inbox with
    | nil =>
      refine ⟨sorted, sorts.aside rfl ?_⟩
      simp only [Exchange.sortNext, waiting]
    | cons message rest =>
      have has := Exchange.has_of_isOpen isOpen
      have next : s.exchange.sortNext port =
          (s.exchange.updatePort port fun port => { port with inbox := rest }).sort port
            message := by
        simp only [Exchange.sortNext, waiting]
      have taken := Exchange.port_updatePort_self has fun port => { port with inbox := rest }
      have still : (s.exchange.updatePort port fun port => { port with inbox := rest }).Has port :=
        ⟨has.1, by rw [Exchange.updatePort_count]; exact has.2⟩
      obtain ⟨lost, split, stays⟩ := sorts.sent
      refine ⟨sorted ++ [message], ⟨lost, ?_, fun _ => stays isOpen⟩, ?_, ?_, ?_⟩
      · change sentTo port s.turns = _
        rw [Exchange.sortNext_inbox, split, waiting, List.tail_cons]
        simp
      · rw [Traffic.notified, next, Exchange.sort_notes still, taken, notesOf_append,
          ← sorts.notified, Traffic.notified, List.append_assoc]
      · intro request reply member
        rw [next] at member
        rcases Exchange.sort_answers still member with before | rfl
        · rw [taken] at before
          exact List.mem_append_left _ (sorts.answers request reply before)
        · exact List.mem_append_right _ (List.mem_singleton.mpr rfl)
      · exact fun now request reply member =>
          List.mem_append_left _ (sorts.returned now request reply member)
  · exact ⟨sorted, sorts.aside rfl (Exchange.sortNext_within.others port own)⟩

theorem drain (sorts : Sorts s port sorted) (target : PortId) :
    Sorts { s with
      exchange := (s.exchange.drainNotes target).1
      log := s.log ++ [.read target (s.exchange.drainNotes target).2] } port sorted := by
  by_cases own : port = target
  · subst own
    have emptied : (s.exchange.drainNotes port).1.port port =
        { s.exchange.port port with notes := [] } := Exchange.port_updatePort rfl
    obtain ⟨lost, split, stays⟩ := sorts.sent
    refine ⟨⟨lost, ?_, ?_⟩, ?_, ?_, ?_⟩
    · rw [turns_of_log rfl rfl, emptied]
      exact split
    · rw [emptied]
      exact stays
    · rw [← sorts.notified, Traffic.notified, Traffic.notified, reads_append, emptied,
        List.append_nil]
      simp [reads, Exchange.drainNotes]
    · intro request reply member
      rw [emptied] at member
      exact sorts.answers request reply member
    · intro now request reply member
      exact sorts.returned now request reply (by simpa using member)
  · exact sorts.calm [.read target _] rfl rfl (by simp [reads, Ne.symm own]) (by simp)
      (Exchange.drainNotes_within.others port own ▸ .refl _)

theorem turn (sorts : Sorts s port sorted) {turn : Turn} (log : after.log = s.log ++ [.turn turn])
    (turned : s.exchange.Turned after.exchange turn) : Sorts after port sorted := by
  have turns : after.turns = s.turns ++ [turn] := by
    unfold Traffic.turns
    rw [log, turnsOf_append]
    rfl
  have own := turned.port port
  obtain ⟨lost, split, stays⟩ := sorts.sent
  refine ⟨?_, ?_, ?_, ?_⟩
  · rw [turns, sentTo_append, split, own]
    by_cases isOpen : (s.exchange.port port).isOpen = true
    · refine ⟨[], ?_, fun _ => rfl⟩
      rw [stays isOpen, Port.receive, if_pos isOpen]
      simp
    · refine ⟨lost ++ addressedTo port turn.sent, ?_, fun still => ?_⟩
      · rw [Port.receive, if_neg isOpen]
        simp
      · rw [Port.receive, if_neg isOpen] at still
        exact absurd still isOpen
  · have notes : (after.exchange.port port).notes = (s.exchange.port port).notes := by
      rw [own, Port.receive]
      split <;> rfl
    rw [← sorts.notified, Traffic.notified, Traffic.notified, log, reads_append, notes]
    simp [reads]
  · intro request reply member
    refine sorts.answers request reply ?_
    rw [own, Port.receive] at member
    split at member <;> exact member
  · intro now request reply member
    refine sorts.returned now request reply ?_
    rw [log] at member
    simpa using member

end Sorts

/-- Every port has sorted something, if only nothing. -/
theorem Reaches.sorts (reached : Reaches config started s) (port : PortId) :
    ∃ sorted, Sorts s port sorted := by
  induction reached with
  | start => exact ⟨[], .start config started port⟩
  | @step s after reached step induction =>
    obtain ⟨sorted, sorts⟩ := induction
    cases step with
    | wait time => exact ⟨sorted, sorts.aside rfl rfl⟩
    | openPort => exact ⟨sorted, sorts.openPort reached⟩
    | closePort target isOpen unused => exact ⟨sorted, sorts.closePort isOpen⟩
    | tell message aside => exact ⟨sorted, sorts.aside rfl (Exchange.tell_port _)⟩
    | send target command request isOpen accepted =>
      obtain ⟨_, _, _, _, _, others, self⟩ :=
        Exchange.send_accepted (Exchange.has_of_isOpen isOpen) accepted
      refine ⟨sorted, sorts.calm [.called _ _ _ _] rfl rfl rfl (by simp) (.of_one ?_ others)⟩
      rw [self]
      exact ⟨rfl, rfl, fun _ _ member => member, rfl⟩
    | refuse target command isOpen refused =>
      obtain ⟨_, same⟩ := Exchange.send_refused refused
      refine ⟨sorted, sorts.calm [.returned _ _ _ _] rfl rfl rfl (by simp) ?_⟩
      dsimp only
      rw [same]
      refine .of_one ?_ fun other apart => Exchange.port_updatePort_of_ne apart _
      rw [Exchange.port_updatePort_self (Exchange.has_of_isOpen isOpen)]
      exact ⟨rfl, rfl, fun _ _ member => member, rfl⟩
    | fetch caller result waits fetched =>
      obtain ⟨held, _⟩ := Exchange.fetch_move fetched
      refine ⟨sorted, sorts.calm [.returned _ _ _ _] rfl rfl rfl ?_ ?_⟩
      · intro now request reply member
        obtain ⟨_, rfl, rfl, rfl⟩ := Event.returned.inj (List.mem_singleton.mp member)
        exact held
      · exact Exchange.fetch_undisturbed caller.port caller.request port
    | giveUp caller waits late nothing =>
      refine ⟨sorted, sorts.calm [.returned _ _ _ _] rfl rfl rfl (by simp)
        (.of_one ?_ (Exchange.giveUp_within _).others)⟩
      dsimp only
      rw [Exchange.giveUp_port]
      exact ⟨rfl, rfl, fun _ _ member => member, rfl⟩
    | abandon caller => exact ⟨sorted, sorts.aside rfl rfl⟩
    | sort target isOpen => exact sorts.sort isOpen
    | hangUp target isOpen sortedAll cut =>
      refine ⟨sorted, sorts.calm [.hungUp target] rfl rfl rfl (by simp)
        (.of_one ?_ Exchange.hangUp_within.others)⟩
      obtain ⟨_, inbox, notes, answers⟩ := Exchange.hangUp_port (Exchange.has_of_isOpen isOpen)
      refine ⟨inbox, notes, fun request reply member => ?_, Exchange.hangUp_within.isOpen⟩
      rcases (answers _).mp member with before | ⟨_, closed⟩
      · exact before
      · cases closed
    | drain target isOpen => exact ⟨sorted, sorts.drain target⟩
    | link move =>
      exact ⟨sorted, sorts.aside rfl ((Exchange.moveLink_links move).port port)⟩
    | turn intake input offered expected =>
      exact ⟨sorted, sorts.turn rfl (Exchange.takeIn_turned offered expected)⟩

end Traffic

end BrowserScript.Relay

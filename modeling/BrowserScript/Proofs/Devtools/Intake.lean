import BrowserScript.Proofs.Devtools.Losses

/-!
# What comes in over a connection

A text that comes in answers one command, or says of some sessions that they are lost, or changes
nothing; the end of the connection loses all sessions. Main definitions: `Devtools.Intake`,
`Connection.takeIn`, `Connection.lostBy`, `Connection.Brings`, `Connection.Ends`. Main results:
`Connection.takeIn_brings`, `Connection.Brings.conserves`, `Connection.Brings.lossesSettled`,
`Connection.Brings.announced_eq`, `Connection.Brings.failed_first`.
-/

set_option autoImplicit false

namespace BrowserScript.Devtools

/-- What comes in from the browser. -/
inductive Intake where
  | text (text : String)
  /-- The connection has ended. -/
  | ended

/-- The message in a text, if there is one. -/
def read? (text : String) : Option Message := (Message.decoder.readText text).toOption

namespace Connection

def takeIn (c : Connection) : Intake → Connection × List Notice
  | .text text => c.receive text
  | .ended => c.disconnect

/-- The sessions that an event says are lost. -/
def lostByEvent (c : Connection) (method : String) (params : Json) (session : Option String) :
    List String :=
  if method = "Target.detachedFromTarget" then (params.field "sessionId").string?.toList
  else if method = "Inspector.detached" then session.toList
  else if method = "Target.targetCrashed" ∨ method = "Target.targetDestroyed" then
    (params.field "targetId").string?.elim [] c.sessionsOf
  else []

/-- The sessions that are lost with what comes in. -/
def lostBy (c : Connection) : Intake → List String
  | .ended => c.sessions.map Prod.fst
  | .text text =>
    match read? text with
    | some ⟨none, _, _, some method, params, session⟩ => c.lostByEvent method params session
    | _ => []

variable {c after : Connection} {call : Waiting} {notices early late : List Notice}
  {session target reason : String} {id : CallId} {intake : Intake} {result : Except PageError Json}

/-! ## What an intake brings -/

/-- What comes in changes nothing, answers a command, tells of lost sessions or of a closed target,
or is the end. -/
inductive Brings (c : Connection) : Intake → Connection → List Notice → Prop
  | nothing (text : String) : c.lostBy (.text text) = [] → Brings c (.text text) c []
  | answer (text : String) (message : Message) (call : Waiting) :
      read? text = some message → message.id = some call.id → call ∈ c.waiting →
      c.lostBy (.text text) = [] →
      Brings c (.text text) (c.withdraw call.id) [.completed call.id (message.outcome call.session)]
  | losses (text reason : String) :
      Brings c (.text text) (sessionsGone reason (c.lostBy (.text text)) c).1
        (sessionsGone reason (c.lostBy (.text text)) c).2
  | closing (text target : String) :
      c.lostBy (.text text) = c.sessionsOf target →
      Brings c (.text text) (c.targetGone target).1 (c.targetGone target).2
  | ended : Brings c .ended c.disconnect.1 c.disconnect.2

theorem sessionGone_eq : c.sessionGone session reason = sessionsGone reason [session] c := by
  simp [sessionsGone]

theorem noticeEvent_brings {text method : String} {params : Json} {on : Option String}
    (lost : c.lostBy (.text text) = c.lostByEvent method params on) :
    Brings c (.text text) (c.noticeEvent method params on).1
      (c.noticeEvent method params on).2 := by
  have losing : ∀ (reason : String) (gone : List String), c.lostBy (.text text) = gone →
      Brings c (.text text) (sessionsGone reason gone c).1 (sessionsGone reason gone c).2 := by
    rintro reason _ rfl
    exact .losses text reason
  unfold noticeEvent
  unfold lostByEvent at lost
  by_cases detached : method = "Target.detachedFromTarget"
  · rw [if_pos detached] at lost ⊢
    cases named : (params.field "sessionId").string? with
    | none => exact .nothing text (by rw [lost, named]; rfl)
    | some session =>
      rw [named] at lost
      dsimp only
      rw [sessionGone_eq]
      exact losing _ _ lost
  rw [if_neg detached] at lost ⊢
  by_cases left : method = "Inspector.detached"
  · rw [if_pos left] at lost ⊢
    cases on with
    | none => exact .nothing text lost
    | some session =>
      dsimp only
      rw [sessionGone_eq]
      exact losing _ _ lost
  rw [if_neg left] at lost ⊢
  by_cases crashed : method = "Target.targetCrashed"
  · rw [if_pos (.inl crashed)] at lost
    rw [if_pos crashed]
    cases named : (params.field "targetId").string? with
    | none => exact .nothing text (by rw [lost, named]; rfl)
    | some target => exact losing _ _ (by rw [lost, named]; rfl)
  rw [if_neg crashed]
  by_cases destroyed : method = "Target.targetDestroyed"
  · rw [if_pos (.inr destroyed)] at lost
    rw [if_pos destroyed]
    cases named : (params.field "targetId").string? with
    | none => exact .nothing text (by rw [lost, named]; rfl)
    | some target => exact .closing text target (by rw [lost, named]; rfl)
  · rw [if_neg (not_or.mpr ⟨crashed, destroyed⟩)] at lost
    rw [if_neg destroyed]
    exact .nothing text lost

theorem noticeMessage_brings {text : String} {message : Message}
    (read : read? text = some message) :
    Brings c (.text text) (c.noticeMessage message).1 (c.noticeMessage message).2 := by
  obtain ⟨number, value, error, method, params, on⟩ := message
  cases number with
  | some id =>
    have lost : c.lostBy (.text text) = [] := by simp only [lostBy, read]
    cases found : c.waiting.find? fun call => call.id == id with
    | none =>
      simp only [noticeMessage, found]
      exact .nothing text lost
    | some call =>
      have same : call.id = id := by simpa using List.find?_some found
      simp only [noticeMessage, found]
      subst same
      exact .answer text _ call read rfl (List.mem_of_find?_eq_some found) lost
  | none =>
    cases method with
    | none => exact .nothing text (by simp only [lostBy, read])
    | some method => exact noticeEvent_brings (by simp only [lostBy, read])

theorem takeIn_brings (c : Connection) (intake : Intake) :
    Brings c intake (c.takeIn intake).1 (c.takeIn intake).2 := by
  cases intake with
  | ended => exact .ended
  | text text =>
    have read : read? text = (Message.decoder.readText text).toOption := rfl
    simp only [takeIn, receive]
    cases found : Message.decoder.readText text with
    | ok message =>
      rw [found] at read
      exact noticeMessage_brings read
    | error _ =>
      rw [found] at read
      exact .nothing text (by simp only [lostBy, read]; rfl)

/-- A command fails with the loss of its session, with the end of the connection, or is answered. -/
inductive Ends (c : Connection) : Intake → CallId → Except PageError Json → Prop
  | answer (text : String) (message : Message) (call : Waiting) :
      read? text = some message → message.id = some call.id → call ∈ c.waiting →
      Ends c (.text text) call.id (message.outcome call.session)
  | loss (text session : String) (id : CallId) :
      session ∈ c.lostBy (.text text) → ⟨id, some session⟩ ∈ c.waiting →
      Ends c (.text text) id (.error (.sessionDetached session))
  | close (call : Waiting) : call ∈ c.waiting → Ends c .ended call.id (.error .connectionClosed)

/-! ## What an intake does -/

theorem targetGone_eq : c.targetGone target =
    (c.without (c.sessionsOf target),
      (sessionsGone "target destroyed" (c.sessionsOf target) c).2 ++
        [.event (.targetClosed target)]) := by
  rw [← sessionsGone_without "target destroyed"]
  rfl

theorem completions_closing : completions (c.targetGone target).2 =
    completions (sessionsGone "target destroyed" (c.sessionsOf target) c).2 := by
  rw [targetGone_eq, completions_append]
  exact List.append_nil _

theorem completions_disconnect : completions c.disconnect.2 = c.waiting.map Waiting.id := by
  have events : completions ((c.sessions.map fun entry =>
      Notice.event (.detached entry.2 entry.1 "connection closed")) ++
        [.event .disconnected]) = [] := by
    refine List.filterMap_eq_nil_iff.mpr fun notice member => ?_
    rcases List.mem_append.mp member with detached | last
    · obtain ⟨entry, _, rfl⟩ := List.mem_map.mp detached
      rfl
    · rw [List.mem_singleton.mp last]
      rfl
  have whole : c.disconnect.2 = (c.waiting.map fun call =>
      Notice.completed call.id (.error .connectionClosed)) ++ ((c.sessions.map fun entry =>
        Notice.event (.detached entry.2 entry.1 "connection closed")) ++
          [.event .disconnected]) := List.append_assoc _ _ _
  rw [whole, completions_append, events, List.append_nil, completions, List.filterMap_map]
  exact congrFun List.filterMap_eq_map _

theorem announced_disconnect (keyed : (c.sessions.map Prod.fst).Nodup) :
    announced session c.disconnect.2 = (c.sessions.lookup session).toList := by
  have failed : announced session (c.waiting.map fun call =>
      Notice.completed call.id (.error .connectionClosed)) = [] := by
    refine List.filterMap_eq_nil_iff.mpr fun notice member => ?_
    obtain ⟨call, _, rfl⟩ := List.mem_map.mp member
    rfl
  have detached : ∀ sessions : List (String × String), (sessions.map Prod.fst).Nodup →
      announced session (sessions.map fun entry =>
        Notice.event (.detached entry.2 entry.1 "connection closed")) =
          (sessions.lookup session).toList := by
    intro sessions keyed
    induction sessions with
    | nil => rfl
    | cons entry rest induction =>
      obtain ⟨key, target⟩ := entry
      obtain ⟨new, keyed⟩ := List.nodup_cons.mp keyed
      have others := induction keyed
      unfold announced at others ⊢
      rw [List.map_cons, List.filterMap_cons, others]
      by_cases same : key = session
      · subst same
        simp [Notice.announces?, lookup_eq_none new]
      · have other : (session == key) = false := beq_eq_false_iff_ne.mpr (Ne.symm same)
        simp [Notice.announces?, same, List.lookup_cons, other]
  have whole : c.disconnect.2 = ((c.waiting.map fun call =>
      Notice.completed call.id (.error .connectionClosed)) ++ (c.sessions.map fun entry =>
        Notice.event (.detached entry.2 entry.1 "connection closed"))) ++
          [.event .disconnected] := rfl
  rw [whole, announced_append, announced_append, failed, detached _ keyed]
  exact List.append_nil _

theorem withdraw_conserves (single : (c.waiting.map Waiting.id).Nodup)
    (waits : call ∈ c.waiting) :
    (call.id :: (c.withdraw call.id).waiting.map Waiting.id).Perm (c.waiting.map Waiting.id) := by
  have kept : (c.withdraw call.id).waiting.map Waiting.id =
      (c.waiting.map Waiting.id).filter (· != call.id) := by
    rw [List.filter_map]
    rfl
  rw [kept, ← single.erase_eq_filter]
  exact (List.perm_cons_erase (List.mem_map_of_mem waits)).symm

namespace Brings

/-- A command is completed exactly when it waits no longer. -/
theorem conserves (brings : Brings c intake after notices)
    (single : (c.waiting.map Waiting.id).Nodup) :
    (completions notices ++ after.waiting.map Waiting.id).Perm (c.waiting.map Waiting.id) := by
  cases brings with
  | nothing text lost => exact .refl _
  | answer text message call read own waits lost => exact withdraw_conserves single waits
  | losses text reason =>
    rw [sessionsGone_without]
    exact sessionsGone_conserves
  | closing text target lost =>
    rw [completions_closing, targetGone_eq]
    exact sessionsGone_conserves
  | ended =>
    rw [completions_disconnect]
    exact .of_eq (List.append_nil _)

theorem waiting_sublist (brings : Brings c intake after notices) :
    after.waiting.Sublist c.waiting := by
  cases brings with
  | nothing text lost => exact .refl _
  | answer text message call read own waits lost => exact List.filter_sublist
  | losses text reason =>
    rw [sessionsGone_without]
    exact List.filter_sublist
  | closing text target lost =>
    rw [targetGone_eq]
    exact List.filter_sublist
  | ended => exact List.nil_sublist _

theorem nextCall_eq (brings : Brings c intake after notices) : after.nextCall = c.nextCall := by
  cases brings with
  | nothing text lost => rfl
  | answer text message call read own waits lost => rfl
  | losses text reason => rw [sessionsGone_without]; rfl
  | closing text target lost => rw [targetGone_eq]; rfl
  | ended => rfl

/-- The sessions that are lost are attached no longer, and all others still are. -/
theorem sessions_eq (brings : Brings c intake after notices) : after.sessions =
    c.sessions.filter fun entry => !(c.lostBy intake).contains entry.1 := by
  cases brings with
  | nothing text lost =>
    rw [lost]
    exact (congrArg sessions without_nil).symm
  | answer text message call read own waits lost =>
    rw [lost]
    exact (congrArg sessions without_nil).symm
  | losses text reason =>
    rw [sessionsGone_without]
    rfl
  | closing text target lost =>
    rw [targetGone_eq, lost]
    rfl
  | ended =>
    refine (List.filter_eq_nil_iff.mpr fun entry member => ?_).symm
    simpa [lostBy] using ⟨_, member⟩

theorem ends (brings : Brings c intake after notices)
    (completed : .completed id result ∈ notices) : Ends c intake id result := by
  cases brings with
  | nothing text lost => cases completed
  | answer text message call read own waits lost =>
    cases List.mem_singleton.mp completed
    exact .answer text message call read own waits
  | losses text reason =>
    obtain ⟨session, lost, waits, rfl⟩ := mem_sessionsGone.mp completed
    exact .loss text session id lost waits
  | closing text target lost =>
    rw [targetGone_eq] at completed
    have failed := (List.mem_append.mp completed).resolve_right (by simp)
    obtain ⟨session, gone, waits, rfl⟩ := mem_sessionsGone.mp failed
    exact .loss text session id (lost ▸ gone) waits
  | ended =>
    have failed : Notice.completed id result ∈ c.waiting.map fun call =>
        Notice.completed call.id (.error .connectionClosed) := by
      simpa [disconnect] using completed
    obtain ⟨call, waits, same⟩ := List.mem_map.mp failed
    cases same
    exact .close call waits

/-- What is not an answer fails the commands of the lost sessions, and no others. -/
theorem lossesSettled {text : String} (brings : Brings c (.text text) after notices)
    (event : ∀ message, read? text = some message → message.id = none) :
    after.waiting = (c.waiting.filter fun call => !isOn (c.lostBy (.text text)) call) ∧
      ∀ id result, .completed id result ∈ notices ↔ ∃ session ∈ c.lostBy (.text text),
        ⟨id, some session⟩ ∈ c.waiting ∧ result = .error (.sessionDetached session) := by
  cases brings with
  | nothing text lost =>
    rw [lost]
    exact ⟨(congrArg waiting without_nil).symm, by simp⟩
  | answer text message call read own waits lost =>
    rw [event message read] at own
    cases own
  | losses text reason =>
    rw [sessionsGone_without]
    exact ⟨rfl, fun _ _ => mem_sessionsGone⟩
  | closing text target lost =>
    rw [targetGone_eq, lost]
    refine ⟨rfl, fun id result => ?_⟩
    rw [List.mem_append, or_iff_left (by simp)]
    exact mem_sessionsGone

/-- What is lost is announced, if it was attached. -/
theorem announced_eq (brings : Brings c intake after notices)
    (keyed : (c.sessions.map Prod.fst).Nodup) (session : String) : announced session notices =
      if session ∈ c.lostBy intake then (c.sessions.lookup session).toList else [] := by
  cases brings with
  | nothing text lost =>
    rw [lost]
    rfl
  | answer text message call read own waits lost =>
    rw [lost]
    rfl
  | losses text reason => exact announced_sessionsGone
  | closing text target lost =>
    rw [targetGone_eq, lost, announced_append, announced_sessionsGone]
    exact List.append_nil _
  | ended =>
    rw [announced_disconnect keyed]
    split
    · rfl
    · next absent => rw [lookup_eq_none absent]; rfl

/-- A session is announced to be lost only when all commands sent to it have failed. -/
theorem failed_first (brings : Brings c intake after notices)
    (split : notices = early ++ .event (.detached target session reason) :: late)
    (waits : ⟨id, some session⟩ ∈ c.waiting) :
    ∃ error, .completed id (.error error) ∈ early := by
  have member : .event (.detached target session reason) ∈ notices :=
    split ▸ List.mem_append_right _ List.mem_cons_self
  cases brings with
  | nothing text lost => cases member
  | answer text message call read own waits lost => cases List.mem_singleton.mp member
  | losses text reason => exact ⟨_, failed_before_detached split waits⟩
  | closing text target lost =>
    rw [targetGone_eq] at split
    obtain ⟨more, split, _⟩ := split_before (by simp) split
    exact ⟨_, failed_before_detached split waits⟩
  | ended =>
    have split := (List.append_assoc _ _ _).symm.trans split
    have failing : .completed id (.error .connectionClosed) ∈ c.waiting.map fun call =>
        Notice.completed call.id (.error .connectionClosed) := List.mem_map.mpr ⟨_, waits, rfl⟩
    obtain ⟨more, rfl, _⟩ := split_after (by simp) split
    exact ⟨_, List.mem_append_left _ failing⟩

/-- A target is announced to be closed only when the loss of its sessions has been announced. -/
theorem announced_first (brings : Brings c intake after notices)
    (keyed : (c.sessions.map Prod.fst).Nodup)
    (split : notices = early ++ .event (.targetClosed target) :: late)
    (attached : (session, target) ∈ c.sessions) :
    (∃ reason, .event (.detached target session reason) ∈ early) ∧
      (session, target) ∉ after.sessions := by
  have member : .event (.targetClosed target) ∈ notices :=
    split ▸ List.mem_append_right _ List.mem_cons_self
  cases brings with
  | nothing text lost => cases member
  | answer text message call read own waits lost => cases List.mem_singleton.mp member
  | losses text reason =>
    obtain ⟨_, _, other⟩ := event_of_sessionsGone member
    cases other
  | closing text gone lost =>
    rw [targetGone_eq] at split member
    have none : .event (.targetClosed target) ∉
        (sessionsGone "target destroyed" (c.sessionsOf gone) c).2 := by
      intro here
      obtain ⟨_, _, other⟩ := event_of_sessionsGone here
      cases other
    cases List.mem_singleton.mp ((List.mem_append.mp member).resolve_left none)
    have lost : session ∈ c.sessionsOf target :=
      List.mem_map.mpr ⟨_, List.mem_filter.mpr ⟨attached, beq_self_eq_true _⟩, rfl⟩
    obtain ⟨more, rfl, _⟩ := split_after none split
    constructor
    · have told : target ∈ announced session
          (sessionsGone "target destroyed" (c.sessionsOf target) c).2 := by
        rw [announced_sessionsGone, if_pos lost, (lookup_eq_some keyed).mpr attached]
        exact List.mem_singleton_self _
      obtain ⟨reason, here⟩ := mem_announced.mp told
      exact ⟨reason, List.mem_append_left _ here⟩
    · rw [targetGone_eq]
      intro still
      simpa [lost] using (List.mem_filter.mp still).2
  | ended => simp [disconnect] at member

end Brings

end Connection

end BrowserScript.Devtools

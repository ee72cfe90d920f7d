import BrowserScript.Proofs.Devtools.Dialogue
import Mathlib

/-!
# Calls and what completes them

Every call returns at most once, and for a reason of its own: its answer, the loss of its session,
the end of the connection, or that it was not sent or not answered in time. Main definition:
`Dialogue.Correlated`. Main result: `Dialogue.Reaches.calls_correlated`.
-/

set_option autoImplicit false

namespace BrowserScript.Devtools.Dialogue

/-- What a text that is no answer does to the commands that wait. -/
structure SettlesLosses (c : Connection) (text : String) : Prop where
  /-- The commands of the lost sessions wait no longer, all others still do. -/
  kept : ∀ call, call ∈ (c.receive text).1.waiting ↔
    call ∈ c.waiting ∧ ∀ session ∈ c.lostBy (.text text), call.session ≠ some session
  /-- The commands of the lost sessions fail, and no others are completed. -/
  failed : ∀ id result, .completed id result ∈ (c.receive text).2 ↔
    ∃ session ∈ c.lostBy (.text text),
      ⟨id, some session⟩ ∈ c.waiting ∧ result = .error (.sessionDetached session)

/-- What the log and the connection say of the calls. -/
structure Correlated (d : Dialogue) : Prop where
  /-- No call returns twice, and no command is completed twice. -/
  once : (returnsOf d.log).Nodup ∧ (completions (toldOf d.log)).Nodup
  /-- A call returns for a reason of its own that has come up since it was made. -/
  traced : ∀ earlier id result later, d.log = earlier ++ .returned id result :: later →
    ∃ before session since, earlier = before ++ .called id session :: since ∧
      Stems since id session result
  settlesLosses : ∀ text, (∀ message, read? text = some message → message.id = none) →
    SettlesLosses d.connection text
  /-- A message with a number that is unknown or has been dealt with changes nothing. -/
  ignored : ∀ text message id, read? text = some message → message.id = some id →
    (∀ session, .called id session ∉ d.log) ∨ id ∈ completions (toldOf d.log) ∨
      id ∈ returnsOf d.log →
    d.connection.receive text = (d.connection, [])
  /-- What has been completed or has returned waits no longer. -/
  gone : ∀ id, id ∈ completions (toldOf d.log) ∨ id ∈ returnsOf d.log →
    id ∉ d.connection.waiting.map Waiting.id
  /-- At the end of the connection nothing is left that waits. -/
  emptied : d.connection.disconnect.1.waiting = []
  /-- What waits after the end of the connection has been sent since then. -/
  outlived : ∀ before since, d.log = before ++ .ended :: since →
    ∀ call ∈ d.connection.waiting, .called call.id call.session ∈ since

variable {d : Dialogue} {c : Connection} {id : CallId} {text : String}

theorem settles_losses (event : ∀ message, read? text = some message → message.id = none) :
    SettlesLosses c text := by
  obtain ⟨left, failed⟩ := (c.takeIn_brings (.text text)).lossesSettled event
  refine ⟨fun call => ?_, failed⟩
  change call ∈ (c.takeIn (.text text)).1.waiting ↔ _
  rw [left, List.mem_filter, Bool.not_eq_true', Bool.eq_false_iff, Ne, Connection.isOn_iff]
  simp

/-- A message with a number that nobody waits for changes nothing. -/
theorem receive_of_not_waiting {message : Message} (read : read? text = some message)
    (own : message.id = some id) (absent : id ∉ c.waiting.map Waiting.id) :
    c.receive text = (c, []) := by
  have nobody : (c.waiting.find? fun call => call.id == id) = none := by
    refine List.find?_eq_none.mpr fun call member same => absent ?_
    exact beq_iff_eq.mp same ▸ List.mem_map_of_mem member
  unfold Connection.receive
  cases found : Message.decoder.readText text with
  | error _ => rfl
  | ok heard =>
    rw [read?, found] at read
    cases read
    simp only [Connection.noticeMessage, own, nobody]

theorem Orderly.gone (orderly : Orderly d)
    (past : id ∈ completions (toldOf d.log) ∨ id ∈ returnsOf d.log) :
    id ∉ d.connection.waiting.map Waiting.id := by
  rcases past with completed | returned
  · exact fun waits => (List.nodup_append.mp orderly.apart).2.2 id completed id waits rfl
  · exact (orderly.returned id returned).2

/-- Who waits has made a call. -/
theorem Orderly.called (orderly : Orderly d) (waits : id ∈ d.connection.waiting.map Waiting.id) :
    ∃ session, .called id session ∈ d.log := by
  obtain ⟨caller, member, rfl⟩ := List.mem_map.mp (orderly.waiting_made waits)
  obtain ⟨before, since, made, _⟩ := orderly.recalls caller member
  exact ⟨caller.session, made ▸ List.mem_append_right _ List.mem_cons_self⟩

/-- In every dialogue calls are completed by what is meant for them. -/
theorem Reaches.calls_correlated (reaches : Reaches d) : Correlated d where
  once := ⟨reaches.orderly.once, (List.nodup_append.mp reaches.orderly.apart).1⟩
  traced := reaches.orderly.traced
  settlesLosses _ event := settles_losses event
  ignored text message id read own other := by
    refine receive_of_not_waiting read own fun waits => ?_
    rcases other with unknown | past
    · obtain ⟨session, called⟩ := reaches.orderly.called waits
      exact unknown session called
    · exact reaches.orderly.gone past waits
  gone _ past := reaches.orderly.gone past
  emptied := rfl
  outlived := reaches.orderly.outlived

/-! ## Two calls that are cut short -/

def pageCall (phase : Phase) (answer : Option (Except PageError Json)) : Caller :=
  ⟨1, "Page.enable", some "S", phase, answer⟩

def listCall (phase : Phase) (answer : Option (Except PageError Json)) : Caller :=
  ⟨2, "Target.getTargets", none, phase, answer⟩

/-- Two calls have been sent, one of them to a session. -/
def twoCalls : Dialogue where
  connection := ⟨3, [⟨1, some "S"⟩, ⟨2, none⟩], [("S", "T")], true⟩
  callers := [pageCall .sent none, listCall .sent none]
  log := [.registered "S" "T", .called 1 (some "S"), .called 2 none]

def sessionLost : String :=
  "\x7b\"method\":\"Target.detachedFromTarget\",\"params\":\x7b\"sessionId\":\"S\"\x7d\x7d"

/-- First the session is lost, and then the connection. -/
def cutShort : Dialogue where
  connection := ⟨3, [], [], false⟩
  callers := [pageCall .over (some (.error (.sessionDetached "S"))),
    listCall .over (some (.error .connectionClosed))]
  log := twoCalls.log ++ [.received sessionLost, .lost "S",
    .told (.completed 1 (.error (.sessionDetached "S"))),
    .told (.event (.detached "T" "S" "detached from target")),
    .returned 1 (.error (.sessionDetached "S")), .ended,
    .told (.completed 2 (.error .connectionClosed)), .told (.event .disconnected),
    .returned 2 (.error .connectionClosed)]

theorem reaches_twoCalls : Reaches twoCalls := by
  refine .step (.step (.step (.step (.step .start (.register "S" "T"))
    (.call "Page.enable" (some "S") ?_)) (.call "Target.getTargets" none ?_))
    (.send (pageCall .sending none) List.mem_cons_self rfl)) (?_ : Step _ twoCalls)
  · decide
  · decide
  · exact .send (listCall .sending none) (List.mem_cons_of_mem _ List.mem_cons_self) rfl

theorem reaches_cutShort : Reaches cutShort := by
  have brought : twoCalls.connection.takeIn (.text sessionLost) =
      (⟨3, [⟨2, none⟩], [], true⟩, [.completed 1 (.error (.sessionDetached "S")),
        .event (.detached "T" "S" "detached from target")]) := by cbv
  have lost : twoCalls.connection.lostBy (.text sessionLost) = ["S"] := by cbv
  have taken := Reaches.step reaches_twoCalls (.takeIn (.text sessionLost) rfl)
  rw [Connection.occurrences, brought, lost] at taken
  have fetched := taken.step (.fetch (pageCall .sent (some (.error (.sessionDetached "S")))) _
    List.mem_cons_self rfl rfl)
  exact (fetched.step (.takeIn .ended rfl)).step
    (.fetch (listCall .sent (some (.error .connectionClosed))) _
      (List.mem_cons_of_mem _ List.mem_cons_self) rfl rfl)

theorem calls_correlated_cut_short :
    Reaches cutShort ∧ returnsOf cutShort.log = [1, 2] ∧ Correlated cutShort :=
  ⟨reaches_cutShort, rfl, reaches_cutShort.calls_correlated⟩

end BrowserScript.Devtools.Dialogue

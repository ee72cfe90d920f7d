import BrowserScript.Proofs.Devtools.Intake
import Mathlib.Data.List.Nodup

/-!
# The dialogue with a browser

A connection with everybody who uses it: callers, who hand over a command, wait for its answer, and
may give up at any time; what comes in from the browser; and who attaches and detaches sessions.
They move one at a time in any order. The log keeps what they do, oldest first. Main definitions:
`Devtools.Dialogue`, `Dialogue.Step`, `Dialogue.Reaches`, `Dialogue.Stems`. Main results:
`Dialogue.Reaches.orderly`.
-/

set_option autoImplicit false

namespace BrowserScript.Devtools

/-! ## Callers -/

/-- How far a call has come. -/
inductive Phase where
  /-- The command has not been handed over to the browser yet. -/
  | sending
  | sent
  | over
  deriving DecidableEq

/-- Somebody who has made a call. -/
structure Caller where
  id : CallId
  method : String
  session : Option String
  phase : Phase
  /-- With what the call has been completed, whether the caller knows it yet or not. -/
  answer : Option (Except PageError Json)

/-- With what a notice completes a command. -/
def Notice.resultOf? (id : CallId) : Notice → Option (Except PageError Json)
  | completed other result => if other = id then some result else none
  | event _ => none

/-- Learns what has been completed. -/
def Caller.hear (notices : List Notice) (caller : Caller) : Caller :=
  { caller with answer := caller.answer.or (notices.findSome? (Notice.resultOf? caller.id)) }

inductive Occurrence where
  | called (id : CallId) (session : Option String)
  | received (text : String)
  /-- The connection has ended. -/
  | ended
  /-- The browser says that a session is lost. -/
  | lost (session : String)
  | told (notice : Notice)
  /-- A call returns. -/
  | returned (id : CallId) (result : Except PageError Json)
  | registered (session target : String)
  | unregistered (session : String)

def Intake.occurrence : Intake → Occurrence
  | .text content => .received content
  | .ended => .ended

/-- What comes in, what is lost with it, and what it brings about. -/
def Connection.occurrences (c : Connection) (intake : Intake) : List Occurrence :=
  intake.occurrence :: ((c.lostBy intake).map .lost ++ (c.takeIn intake).2.map .told)

structure Dialogue where
  connection : Connection
  callers : List Caller
  log : List Occurrence

namespace Dialogue

def start : Dialogue := ⟨.fresh, [], []⟩

/-- A caller goes on to a phase. -/
def moved (d : Dialogue) (caller : Caller) (phase : Phase) : List Caller :=
  d.callers.map fun other => if other.id = caller.id then { other with phase } else other

/-- One move of one of the parties. As long as the numbers of commands last, none is used twice. -/
inductive Step (d : Dialogue) : Dialogue → Prop
  | call (method : String) (session : Option String) :
      d.callers.length < UInt64.size →
      Step d
        { connection := (d.connection.call session).1
          callers := d.callers ++ [⟨d.connection.nextCall, method, session, .sending, none⟩]
          log := d.log ++ [.called d.connection.nextCall session] }
  | send (caller : Caller) :
      caller ∈ d.callers → caller.phase = .sending →
      Step d { d with callers := d.moved caller .sent }
  /-- The command cannot be handed over. -/
  | fail (caller : Caller) (reason : String) :
      caller ∈ d.callers → caller.phase = .sending →
      Step d
        { connection := d.connection.withdraw caller.id
          callers := d.moved caller .over
          log := d.log ++ [.returned caller.id (.error (.transport reason))] }
  | fetch (caller : Caller) (result : Except PageError Json) :
      caller ∈ d.callers → caller.phase = .sent → caller.answer = some result →
      Step d
        { d with
          callers := d.moved caller .over
          log := d.log ++ [.returned caller.id result] }
  /-- The answer has not come in time. -/
  | expire (caller : Caller) :
      caller ∈ d.callers → caller.phase = .sent → caller.answer = none →
      Step d
        { connection := d.connection.withdraw caller.id
          callers := d.moved caller .over
          log := d.log ++
            [.returned caller.id (.error (.timeout s!"{caller.method} timed out"))] }
  /-- The call is dropped; the connection does not know of it. -/
  | abandon (caller : Caller) :
      caller ∈ d.callers → Step d { d with callers := d.moved caller .over }
  | takeIn (intake : Intake) :
      d.connection.isOpen = true →
      Step d
        { connection := (d.connection.takeIn intake).1
          callers := d.callers.map (Caller.hear (d.connection.takeIn intake).2)
          log := d.log ++ d.connection.occurrences intake }
  | register (session target : String) :
      Step d
        { d with
          connection := d.connection.register session target
          log := d.log ++ [.registered session target] }
  | unregister (session : String) :
      Step d
        { d with
          connection := d.connection.unregister session
          log := d.log ++ [.unregistered session] }

/-- The states a dialogue can get into. -/
inductive Reaches : Dialogue → Prop
  | start : Reaches start
  | step {d after : Dialogue} : Reaches d → Step d after → Reaches after

/-! ## What the log says -/

/-- The calls that have returned, in order. -/
def returnsOf (log : List Occurrence) : List CallId :=
  log.filterMap fun
    | .returned id _ => some id
    | _ => none

/-- What has been told, in order. -/
def toldOf (log : List Occurrence) : List Notice :=
  log.filterMap fun
    | .told notice => some notice
    | _ => none

/-- How a call with this number and session can return after what has happened since it was made. -/
inductive Stems (since : List Occurrence) (id : CallId) (session : Option String) :
    Except PageError Json → Prop
  | value (text : String) (message : Message) :
      .received text ∈ since → read? text = some message → message.id = some id →
      message.error = none → Stems since id session (.ok (message.result.getD .null))
  | refusal (text : String) (message : Message) (error : ErrorBody) :
      .received text ∈ since → read? text = some message → message.id = some id →
      message.error = some error → error.code ≠ sessionNotFound →
      Stems since id session (.error (.refused error.code error.message))
  | unknownSession (text : String) (message : Message) (error : ErrorBody) :
      .received text ∈ since → read? text = some message → message.id = some id →
      message.error = some error → error.code = sessionNotFound →
      Stems since id session (.error (.sessionDetached (session.getD "")))
  | loss (lost : String) :
      .lost lost ∈ since → session = some lost →
      Stems since id session (.error (.sessionDetached lost))
  | close : .ended ∈ since → Stems since id session (.error .connectionClosed)
  | unsent (reason : String) : Stems since id session (.error (.transport reason))
  | late (what : String) : Stems since id session (.error (.timeout what))

variable {d after : Dialogue} {caller : Caller} {id : CallId} {session : Option String}
  {result : Except PageError Json} {since news log : List Occurrence} {notices : List Notice}

theorem Stems.mono (stems : Stems since id session result) :
    Stems (since ++ news) id session result := by
  cases stems with
  | value text message heard read own fine =>
    exact .value text message (List.mem_append_left _ heard) read own fine
  | refusal text message error heard read own refused other =>
    exact .refusal text message error (List.mem_append_left _ heard) read own refused other
  | unknownSession text message error heard read own refused same =>
    exact .unknownSession text message error (List.mem_append_left _ heard) read own refused same
  | loss lost told on => exact .loss lost (List.mem_append_left _ told) on
  | close ended => exact .close (List.mem_append_left _ ended)
  | unsent reason => exact .unsent reason
  | late what => exact .late what

/-- What completes a command is a reason for its call to return. -/
theorem stems_of_ends {c : Connection} {intake : Intake} (ends : c.Ends intake id result)
    (own : ∀ call ∈ c.waiting, call.id = id → call.session = session) :
    Stems (since ++ c.occurrences intake) id session result := by
  have heard : intake.occurrence ∈ since ++ c.occurrences intake :=
    List.mem_append_right _ List.mem_cons_self
  cases ends with
  | answer text message call read same waits =>
    rw [own call waits rfl]
    cases outcome : message.error with
    | none =>
      rw [Message.outcome, outcome]
      exact .value text message heard read same outcome
    | some error =>
      rw [Message.outcome, outcome]
      dsimp only
      split
      · next code => exact .unknownSession text message error heard read same outcome code
      · next code => exact .refusal text message error heard read same outcome code
  | loss text lost id gone waits =>
    refine .loss lost (List.mem_append_right _ (List.mem_cons_of_mem _ ?_)) (own _ waits rfl).symm
    exact List.mem_append_left _ (List.mem_map_of_mem gone)
  | close call waits => exact .close heard

/-- When a call was made, and why it is completed if it is. -/
def Recalls (log : List Occurrence) (caller : Caller) : Prop :=
  ∃ before since, log = before ++ .called caller.id caller.session :: since ∧
    ∀ result, caller.answer = some result → Stems since caller.id caller.session result

theorem Recalls.mono (recalls : Recalls log caller) : Recalls (log ++ news) caller := by
  obtain ⟨before, since, rfl, stems⟩ := recalls
  refine ⟨before, since ++ news, ?_, fun result here => (stems result here).mono⟩
  rw [List.append_assoc, List.cons_append]

theorem returnsOf_append :
    returnsOf (log ++ news) = returnsOf log ++ returnsOf news := List.filterMap_append

theorem toldOf_append : toldOf (log ++ news) = toldOf log ++ toldOf news := List.filterMap_append

theorem toldOf_occurrences {c : Connection} {intake : Intake} :
    toldOf (c.occurrences intake) = (c.takeIn intake).2 := by
  have first : toldOf (intake.occurrence :: (c.lostBy intake).map .lost) = [] := by
    refine List.filterMap_eq_nil_iff.mpr fun occurrence member => ?_
    rcases List.mem_cons.mp member with rfl | lost
    · cases intake <;> rfl
    · obtain ⟨session, _, rfl⟩ := List.mem_map.mp lost
      rfl
  have rest : toldOf ((c.takeIn intake).2.map .told) = (c.takeIn intake).2 := by
    rw [toldOf, List.filterMap_map]
    exact List.filterMap_some
  rw [Connection.occurrences, ← List.cons_append, toldOf_append, first, rest, List.nil_append]

theorem returnsOf_occurrences {c : Connection} {intake : Intake} :
    returnsOf (c.occurrences intake) = [] := by
  refine List.filterMap_eq_nil_iff.mpr fun occurrence member => ?_
  rcases List.mem_cons.mp member with rfl | later
  · cases intake <;> rfl
  · rcases List.mem_append.mp later with lost | told
    · obtain ⟨session, _, rfl⟩ := List.mem_map.mp lost
      rfl
    · obtain ⟨notice, _, rfl⟩ := List.mem_map.mp told
      rfl

theorem ended_notMem_occurrences {c : Connection} {text : String} :
    .ended ∉ c.occurrences (.text text) := by
  simp [Connection.occurrences, Intake.occurrence]

theorem completed_of_resultOf (found : notices.findSome? (Notice.resultOf? id) = some result) :
    .completed id result ∈ notices := by
  obtain ⟨notice, member, same⟩ := List.exists_of_findSome?_eq_some found
  cases notice with
  | completed other value =>
    simp only [Notice.resultOf?] at same
    split at same
    · next equal =>
      cases same
      exact equal ▸ member
    · cases same
  | event event => cases same

theorem mem_completions (completed : .completed id result ∈ notices) : id ∈ completions notices :=
  List.mem_filterMap.mpr ⟨_, completed, rfl⟩

/-! ## What holds of every dialogue -/

/-- Every call that has returned was made before, and something that has happened since then is a
reason for what it returned. -/
def Traced (log : List Occurrence) : Prop :=
  ∀ earlier id result later, log = earlier ++ .returned id result :: later →
    ∃ before session since, earlier = before ++ .called id session :: since ∧
      Stems since id session result

/-- Who waits after the end of the connection has made the call since then. -/
def Outlived (c : Connection) (log : List Occurrence) : Prop :=
  ∀ before since, log = before ++ .ended :: since →
    ∀ call ∈ c.waiting, .called call.id call.session ∈ since

structure Orderly (d : Dialogue) : Prop where
  few : d.callers.length ≤ UInt64.size
  numbered : d.callers.map Caller.id =
    (List.range d.callers.length).map fun k => UInt64.ofNat (k + 1)
  next : d.connection.nextCall = UInt64.ofNat (d.callers.length + 1)
  /-- A command waits or has been completed, and not twice. -/
  apart : (completions (toldOf d.log) ++ d.connection.waiting.map Waiting.id).Nodup
  made : ∀ id ∈ completions (toldOf d.log), id ∈ d.callers.map Caller.id
  matched : ∀ call ∈ d.connection.waiting, ∃ caller ∈ d.callers,
    caller.id = call.id ∧ caller.session = call.session ∧ caller.answer = none
  recalls : ∀ caller ∈ d.callers, Recalls d.log caller
  going : ∀ caller ∈ d.callers, caller.phase ≠ .over → caller.id ∉ returnsOf d.log
  returned : ∀ id ∈ returnsOf d.log,
    id ∈ d.callers.map Caller.id ∧ id ∉ d.connection.waiting.map Waiting.id
  once : (returnsOf d.log).Nodup
  traced : Traced d.log
  outlived : Outlived d.connection d.log

theorem ofNat_inj {j k : Nat} (first : j < UInt64.size) (second : k < UInt64.size)
    (same : UInt64.ofNat (j + 1) = UInt64.ofNat (k + 1)) : j = k := by
  have equal := congrArg UInt64.toNat same
  simp only [UInt64.toNat_ofNat'] at equal
  change j < 2 ^ 64 at first
  change k < 2 ^ 64 at second
  omega

namespace Orderly

/-- No two calls have the same number. -/
theorem single (orderly : Orderly d) : (d.callers.map Caller.id).Nodup := by
  rw [orderly.numbered]
  refine List.Nodup.map_on ?_ List.nodup_range
  intro j first k second same
  have few := orderly.few
  exact ofNat_inj (Nat.lt_of_lt_of_le (List.mem_range.mp first) few)
    (Nat.lt_of_lt_of_le (List.mem_range.mp second) few) same

/-- The number of the next call is new. -/
theorem fresh (orderly : Orderly d) (room : d.callers.length < UInt64.size) :
    d.connection.nextCall ∉ d.callers.map Caller.id := by
  rw [orderly.next, orderly.numbered]
  intro used
  obtain ⟨k, inside, same⟩ := List.mem_map.mp used
  have earlier := List.mem_range.mp inside
  exact Nat.ne_of_lt earlier (ofNat_inj (Nat.lt_trans earlier room) room same)

theorem eq_of_id (orderly : Orderly d) {other : Caller} (here : caller ∈ d.callers)
    (there : other ∈ d.callers) (same : caller.id = other.id) : caller = other :=
  List.inj_on_of_nodup_map orderly.single here there same

theorem waiting_single (orderly : Orderly d) : (d.connection.waiting.map Waiting.id).Nodup :=
  (List.nodup_append.mp orderly.apart).2.1

/-- Who waits has a call of its own. -/
theorem waiting_made (orderly : Orderly d) (waits : id ∈ d.connection.waiting.map Waiting.id) :
    id ∈ d.callers.map Caller.id := by
  obtain ⟨call, member, rfl⟩ := List.mem_map.mp waits
  obtain ⟨caller, here, same, _, _⟩ := orderly.matched call member
  exact same ▸ List.mem_map_of_mem here

/-- A call that has been completed waits no longer. -/
theorem not_waiting_of_answer (orderly : Orderly d) (member : caller ∈ d.callers)
    (answered : caller.answer = some result) :
    caller.id ∉ d.connection.waiting.map Waiting.id := by
  intro waits
  obtain ⟨call, here, same⟩ := List.mem_map.mp waits
  obtain ⟨other, there, equal, _, unanswered⟩ := orderly.matched call here
  cases orderly.eq_of_id member there (equal.trans same).symm
  rw [answered] at unanswered
  cases unanswered

end Orderly

theorem Traced.append (traced : Traced log) (silent : returnsOf news = []) :
    Traced (log ++ news) := by
  intro earlier id result later split
  rcases split_cons split with ⟨middle, here, _⟩ | ⟨middle, _, there⟩
  · exact traced earlier id result middle here
  · rw [there, returnsOf_append] at silent
    cases (List.append_eq_nil_iff.mp silent).2

theorem Traced.returned (traced : Traced log) {before : List Occurrence}
    (made : log = before ++ .called id session :: since)
    (stems : Stems since id session result) : Traced (log ++ [.returned id result]) := by
  intro earlier other value later split
  rcases split_cons split with ⟨middle, here, _⟩ | ⟨middle, here, there⟩
  · exact traced earlier other value middle here
  · rcases List.cons_eq_append_iff.mp there with ⟨rfl, same⟩ | ⟨_, _, none⟩
    · cases same
      rw [List.append_nil] at here
      exact ⟨before, session, since, here.trans made, stems⟩
    · cases (List.append_eq_nil_iff.mp none.symm).2

theorem Outlived.append {c other : Connection} (outlived : Outlived c log)
    (fewer : ∀ call ∈ other.waiting,
      call ∈ c.waiting ∨ .called call.id call.session ∈ news)
    (still : .ended ∉ news) : Outlived other (log ++ news) := by
  intro before since split call waits
  obtain ⟨middle, here, rfl⟩ := split_before still split
  rcases fewer call waits with old | new
  · exact List.mem_append_left _ (outlived before middle here call old)
  · exact List.mem_append_right _ new

theorem ids_moved (phase : Phase) :
    (d.moved caller phase).map Caller.id = d.callers.map Caller.id := by
  rw [moved, List.map_map]
  refine List.map_congr_left fun other _ => ?_
  dsimp only [Function.comp]
  split <;> rfl

/-- Whoever goes on to a phase keeps all else. -/
theorem mem_moved {phase : Phase} {other : Caller} (member : other ∈ d.moved caller phase) :
    ∃ old ∈ d.callers, (old.id = other.id ∧ old.session = other.session ∧
      old.answer = other.answer) ∧
        (other.phase = old.phase ∧ other.id ≠ caller.id ∨
          other.phase = phase ∧ other.id = caller.id) := by
  obtain ⟨old, here, rfl⟩ := List.mem_map.mp member
  refine ⟨old, here, ?_⟩
  split
  · next same => exact ⟨⟨rfl, rfl, rfl⟩, .inr ⟨rfl, same⟩⟩
  · next different => exact ⟨⟨rfl, rfl, rfl⟩, .inl ⟨rfl, different⟩⟩

theorem moved_mem {phase : Phase} {old : Caller} (member : old ∈ d.callers) :
    ∃ other ∈ d.moved caller phase,
      other.id = old.id ∧ other.session = old.session ∧ other.answer = old.answer := by
  refine ⟨_, List.mem_map_of_mem member, ?_⟩
  split <;> exact ⟨rfl, rfl, rfl⟩

namespace Orderly

/-- A caller goes on. -/
theorem move (orderly : Orderly d) {phase : Phase} (member : caller ∈ d.callers)
    (going : phase ≠ .over → caller.phase ≠ .over) :
    Orderly { d with callers := d.moved caller phase } where
  few := by
    rw [moved, List.length_map]
    exact orderly.few
  numbered := by
    rw [ids_moved, moved, List.length_map]
    exact orderly.numbered
  next := by
    rw [moved, List.length_map]
    exact orderly.next
  apart := orderly.apart
  made := by
    rw [ids_moved]
    exact orderly.made
  matched call waits := by
    obtain ⟨old, here, same, on, unanswered⟩ := orderly.matched call waits
    obtain ⟨other, there, id, session, answer⟩ := moved_mem here
    exact ⟨other, there, id.trans same, session.trans on, answer.trans unanswered⟩
  recalls other there := by
    obtain ⟨old, here, ⟨id, session, answer⟩, _⟩ := mem_moved there
    have recalls := orderly.recalls old here
    unfold Recalls at recalls ⊢
    rwa [← id, ← session, ← answer]
  going other there unfinished := by
    obtain ⟨old, here, ⟨id, _, _⟩, ⟨same, _⟩ | ⟨now, same⟩⟩ := mem_moved there
    · exact id ▸ orderly.going old here (same ▸ unfinished)
    · rw [same]
      exact orderly.going caller member (going (now ▸ unfinished))
  returned := by
    rw [ids_moved]
    exact orderly.returned
  once := orderly.once
  traced := orderly.traced
  outlived := orderly.outlived

/-- A call returns, and its command waits no longer. -/
theorem back (orderly : Orderly d) {c : Connection} (member : caller ∈ d.callers)
    (unfinished : caller.phase ≠ .over) (next : c.nextCall = d.connection.nextCall)
    (fewer : c.waiting.Sublist d.connection.waiting)
    (gone : caller.id ∉ c.waiting.map Waiting.id)
    (stems : ∀ since, (∀ value, caller.answer = some value →
      Stems since caller.id caller.session value) → Stems since caller.id caller.session result) :
    Orderly
      { connection := c
        callers := d.moved caller .over
        log := d.log ++ [.returned caller.id result] } where
  few := by
    rw [moved, List.length_map]
    exact orderly.few
  numbered := by
    rw [ids_moved, moved, List.length_map]
    exact orderly.numbered
  next := by
    rw [moved, List.length_map, next]
    exact orderly.next
  apart := by
    rw [toldOf_append]
    change (completions (toldOf d.log ++ []) ++ _).Nodup
    rw [List.append_nil]
    exact orderly.apart.sublist ((fewer.map Waiting.id).append_left _)
  made := by
    rw [ids_moved, toldOf_append]
    change ∀ id ∈ completions (toldOf d.log ++ []), _
    rw [List.append_nil]
    exact orderly.made
  matched call waits := by
    obtain ⟨old, here, same, on, unanswered⟩ := orderly.matched call (fewer.mem waits)
    obtain ⟨other, there, id, session, answer⟩ := moved_mem here
    exact ⟨other, there, id.trans same, session.trans on, answer.trans unanswered⟩
  recalls other there := by
    obtain ⟨old, here, ⟨id, session, answer⟩, _⟩ := mem_moved there
    have recalls : Recalls (d.log ++ [.returned caller.id result]) old :=
      (orderly.recalls old here).mono
    unfold Recalls at recalls ⊢
    rwa [← id, ← session, ← answer]
  going other there unfinished := by
    obtain ⟨old, here, ⟨id, _, _⟩, ⟨same, different⟩ | ⟨now, _⟩⟩ := mem_moved there
    · rw [returnsOf_append, List.mem_append, not_or]
      exact ⟨id ▸ orderly.going old here (same ▸ unfinished), fun new =>
        different (List.mem_singleton.mp new)⟩
    · exact absurd now unfinished
  returned id member := by
    rw [ids_moved]
    rw [returnsOf_append] at member
    rcases List.mem_append.mp member with old | new
    · obtain ⟨here, absent⟩ := orderly.returned id old
      exact ⟨here, fun waits => absent ((fewer.map Waiting.id).mem waits)⟩
    · cases List.mem_singleton.mp new
      exact ⟨List.mem_map_of_mem ‹_›, gone⟩
  once := by
    rw [returnsOf_append]
    refine List.nodup_append.mpr ⟨orderly.once, List.nodup_singleton _, ?_⟩
    rintro _ old _ new rfl
    cases List.mem_singleton.mp new
    exact orderly.going caller member unfinished old
  traced := by
    obtain ⟨before, since, made, reasons⟩ := orderly.recalls caller member
    exact orderly.traced.returned made (stems since reasons)
  outlived := orderly.outlived.append (fun call waits => .inl (fewer.mem waits)) (by simp)

theorem started : Orderly start where
  few := Nat.zero_le _
  numbered := rfl
  next := rfl
  apart := List.nodup_nil
  made _ none := by cases none
  matched _ none := by cases none
  recalls _ none := by cases none
  going _ none := by cases none
  returned _ none := by cases none
  once := List.nodup_nil
  traced earlier _ _ _ split := by cases earlier <;> cases split
  outlived before _ split := by cases before <;> cases split

/-- A new call is made. -/
theorem call (orderly : Orderly d) (method : String) (session : Option String)
    (room : d.callers.length < UInt64.size) :
    Orderly
      { connection := (d.connection.call session).1
        callers := d.callers ++ [⟨d.connection.nextCall, method, session, .sending, none⟩]
        log := d.log ++ [.called d.connection.nextCall session] } := by
  have fresh := orderly.fresh room
  have told : toldOf (d.log ++ [.called d.connection.nextCall session]) = toldOf d.log := by
    rw [toldOf_append]
    exact List.append_nil _
  have returns : returnsOf (d.log ++ [.called d.connection.nextCall session]) =
      returnsOf d.log := by
    rw [returnsOf_append]
    exact List.append_nil _
  have waiting : ((d.connection.call session).1.waiting).map Waiting.id =
      d.connection.waiting.map Waiting.id ++ [d.connection.nextCall] := List.map_append
  exact
    { few := by
        rw [List.length_append]
        exact room
      numbered := by
        rw [List.map_append, List.length_append, List.length_singleton, List.range_succ,
          List.map_append, orderly.numbered]
        exact congrArg (_ ++ [·]) orderly.next
      next := by
        rw [List.length_append, List.length_singleton]
        change d.connection.nextCall + 1 = _
        rw [orderly.next]
        exact (UInt64.ofNat_add _ _).symm
      apart := by
        rw [told, waiting, ← List.append_assoc]
        refine List.nodup_append.mpr ⟨orderly.apart, List.nodup_singleton _, ?_⟩
        rintro id known _ new rfl
        cases List.mem_singleton.mp new
        rcases List.mem_append.mp known with completed | waits
        · exact fresh (orderly.made _ completed)
        · exact fresh (orderly.waiting_made waits)
      made := by
        rw [told]
        intro id completed
        rw [List.map_append]
        exact List.mem_append_left _ (orderly.made id completed)
      matched := by
        intro call waits
        rcases List.mem_append.mp waits with old | new
        · obtain ⟨caller, here, same⟩ := orderly.matched call old
          exact ⟨caller, List.mem_append_left _ here, same⟩
        · cases List.mem_singleton.mp new
          exact ⟨_, List.mem_append_right _ List.mem_cons_self, rfl, rfl, rfl⟩
      recalls := by
        intro caller member
        rcases List.mem_append.mp member with old | new
        · exact (orderly.recalls caller old).mono
        · cases List.mem_singleton.mp new
          exact ⟨d.log, [], rfl, fun _ none => by cases none⟩
      going := by
        rw [returns]
        intro caller member unfinished
        rcases List.mem_append.mp member with old | new
        · exact orderly.going caller old unfinished
        · cases List.mem_singleton.mp new
          exact fun past => fresh (orderly.returned _ past).1
      returned := by
        rw [returns, waiting]
        intro id past
        obtain ⟨made, absent⟩ := orderly.returned id past
        rw [List.map_append, List.mem_append, List.mem_append, not_or]
        refine ⟨.inl made, absent, fun new => fresh ?_⟩
        exact List.mem_singleton.mp new ▸ made
      once := by
        rw [returns]
        exact orderly.once
      traced := orderly.traced.append rfl
      outlived := by
        refine orderly.outlived.append (fun call waits => ?_) (by simp)
        rcases List.mem_append.mp waits with old | new
        · exact .inl old
        · cases List.mem_singleton.mp new
          exact .inr List.mem_cons_self }

/-- Something is done that no call is concerned with. -/
theorem aside (orderly : Orderly d) {c : Connection} {occurrence : Occurrence}
    (next : c.nextCall = d.connection.nextCall) (same : c.waiting = d.connection.waiting)
    (untold : toldOf [occurrence] = []) (unreturned : returnsOf [occurrence] = [])
    (other : occurrence ≠ .ended) :
    Orderly { connection := c, callers := d.callers, log := d.log ++ [occurrence] } := by
  have told : toldOf (d.log ++ [occurrence]) = toldOf d.log := by
    rw [toldOf_append, untold, List.append_nil]
  have returns : returnsOf (d.log ++ [occurrence]) = returnsOf d.log := by
    rw [returnsOf_append, unreturned, List.append_nil]
  exact
    { few := orderly.few
      numbered := orderly.numbered
      next := next.trans orderly.next
      apart := told ▸ same ▸ orderly.apart
      made := told ▸ orderly.made
      matched := same ▸ orderly.matched
      recalls := fun caller member => (orderly.recalls caller member).mono
      going := returns ▸ orderly.going
      returned := returns ▸ same ▸ orderly.returned
      once := returns ▸ orderly.once
      traced := orderly.traced.append unreturned
      outlived := orderly.outlived.append (fun _ waits => .inl (same ▸ waits))
        (fun ended => other (List.mem_singleton.mp ended).symm) }

/-- What comes in is taken in. -/
theorem takeIn (orderly : Orderly d) (intake : Intake) :
    Orderly
      { connection := (d.connection.takeIn intake).1
        callers := d.callers.map (Caller.hear (d.connection.takeIn intake).2)
        log := d.log ++ d.connection.occurrences intake } := by
  have brings := d.connection.takeIn_brings intake
  have conserved := brings.conserves orderly.waiting_single
  have told : toldOf (d.log ++ d.connection.occurrences intake) =
      toldOf d.log ++ (d.connection.takeIn intake).2 := by
    rw [toldOf_append, toldOf_occurrences]
  have returns : returnsOf (d.log ++ d.connection.occurrences intake) = returnsOf d.log := by
    rw [returnsOf_append, returnsOf_occurrences, List.append_nil]
  have ids : (d.callers.map (Caller.hear (d.connection.takeIn intake).2)).map Caller.id =
      d.callers.map Caller.id := by
    rw [List.map_map]
    rfl
  have length : (d.callers.map (Caller.hear (d.connection.takeIn intake).2)).length =
      d.callers.length := List.length_map _
  exact
    { few := length ▸ orderly.few
      numbered := by
        rw [ids, length]
        exact orderly.numbered
      next := by
        rw [length, brings.nextCall_eq]
        exact orderly.next
      apart := by
        rw [told, Connection.completions_append, List.append_assoc]
        exact (conserved.append_left _).nodup_iff.mpr orderly.apart
      made := by
        rw [told, ids, Connection.completions_append]
        intro id completed
        rcases List.mem_append.mp completed with old | new
        · exact orderly.made id old
        · exact orderly.waiting_made (conserved.subset (List.mem_append_left _ new))
      matched := by
        intro call waits
        obtain ⟨caller, here, same, on, unanswered⟩ :=
          orderly.matched call (brings.waiting_sublist.mem waits)
        refine ⟨_, List.mem_map_of_mem here, same, on, ?_⟩
        rw [Caller.hear, unanswered, Option.none_or, Option.eq_none_iff_forall_ne_some]
        intro result found
        have completed := mem_completions (completed_of_resultOf found)
        have apart := conserved.nodup_iff.mpr orderly.waiting_single
        exact (List.nodup_append.mp apart).2.2 _ completed _ (List.mem_map_of_mem waits) same
      recalls := by
        intro heard member
        obtain ⟨caller, here, rfl⟩ := List.mem_map.mp member
        obtain ⟨before, since, made, stems⟩ := orderly.recalls caller here
        refine ⟨before, since ++ d.connection.occurrences intake, ?_, fun result answered => ?_⟩
        · rw [made, List.append_assoc]
          rfl
        · rcases Option.or_eq_some_iff.mp answered with old | ⟨_, found⟩
          · exact (stems result old).mono
          · refine stems_of_ends (brings.ends (completed_of_resultOf found)) ?_
            intro call waits same
            obtain ⟨other, there, equal, on, _⟩ := orderly.matched call waits
            rw [← on, orderly.eq_of_id here there (equal.trans same).symm]
            rfl
      going := by
        rw [returns]
        intro heard member unfinished
        obtain ⟨caller, here, rfl⟩ := List.mem_map.mp member
        exact orderly.going caller here unfinished
      returned := by
        rw [returns, ids]
        intro id past
        obtain ⟨made, absent⟩ := orderly.returned id past
        exact ⟨made, fun waits => absent ((brings.waiting_sublist.map Waiting.id).mem waits)⟩
      once := by
        rw [returns]
        exact orderly.once
      traced := orderly.traced.append returnsOf_occurrences
      outlived := by
        cases intake with
        | ended =>
          intro before since _ call waits
          cases waits
        | text text =>
          refine orderly.outlived.append (fun call waits => .inl ?_) ended_notMem_occurrences
          exact brings.waiting_sublist.mem waits }

end Orderly

theorem withdrawn {c : Connection} : id ∉ (c.withdraw id).waiting.map Waiting.id := by
  intro waits
  obtain ⟨call, member, rfl⟩ := List.mem_map.mp waits
  simpa using (List.mem_filter.mp member).2

theorem Step.orderly (step : Step d after) (orderly : Orderly d) : Orderly after := by
  cases step with
  | call method session room => exact orderly.call method session room
  | send caller member sending =>
    exact orderly.move member fun _ past => by rw [sending] at past; cases past
  | fail caller reason member sending =>
    refine orderly.back member (by simp [sending]) rfl List.filter_sublist ?_ fun _ _ => ?_
    · exact withdrawn
    · exact .unsent reason
  | fetch caller result member sent answered =>
    refine orderly.back member (by simp [sent]) rfl (List.Sublist.refl _) ?_ fun since stems => ?_
    · exact orderly.not_waiting_of_answer member answered
    · exact stems result answered
  | expire caller member sent _ =>
    refine orderly.back member (by simp [sent]) rfl List.filter_sublist ?_ fun _ _ => ?_
    · exact withdrawn
    · exact .late _
  | abandon caller member => exact orderly.move member fun past => absurd rfl past
  | takeIn intake _ => exact orderly.takeIn intake
  | register session target => exact orderly.aside rfl rfl rfl rfl (by simp)
  | unregister session => exact orderly.aside rfl rfl rfl rfl (by simp)

theorem Reaches.orderly (reaches : Reaches d) : Orderly d := by
  induction reaches with
  | start => exact .started
  | step _ step orderly => exact step.orderly orderly

end Dialogue

end BrowserScript.Devtools

import BrowserScript.Devtools.Client
import BrowserScript.Proofs.Devtools.Announcement
import BrowserScript.Proofs.Run.Transcript

/-!
# What an attempt to attach leaves

The client attaches by commands, each of which may fail, and meanwhile the connection goes on. The
session the browser opens for an attempt is recorded as soon as the browser has named it, and the
attempt does not take that back when a later command fails. So the session stays recorded unless its
loss is taken in afterwards, or somebody else unregisters it. Main definitions:
`Dialogue.Conducts`, `Dialogue.openedBy`, `Dialogue.FailedAttach`. Main results:
`Dialogue.Reaches.failed_attach`.
-/

set_option autoImplicit false

namespace BrowserScript.Devtools.Dialogue

open Connection

/-- The requests of a program, with their answers. -/
abbrev Exchange : Type := List (Program.Entry Request Request.Answer)

variable {α : Type} {d middle after : Dialogue} {exchanged : Exchange} {session target : String}
  {error : PageError} {id : CallId} {log news since : List Occurrence}

/-! ## Carrying out a program -/

/-- A new call is made. -/
def calling (d : Dialogue) (method : String) (session : Option String) : Dialogue where
  connection := (d.connection.call session).1
  callers := d.callers ++ [⟨d.connection.nextCall, method, session, .sending, none⟩]
  log := d.log ++ [.called d.connection.nextCall session]

/-- A session is recorded as attached. -/
def recording (d : Dialogue) (session target : String) : Dialogue :=
  { d with
    connection := d.connection.register session target
    log := d.log ++ [.registered session target] }

/-- A session is no longer recorded. -/
def striking (d : Dialogue) (session : String) : Dialogue :=
  { d with
    connection := d.connection.unregister session
    log := d.log ++ [.unregistered session] }

/-- What can come of a dialogue. -/
abbrev Onward : Dialogue → Dialogue → Prop := Relation.ReflTransGen Step

/-- Somebody carries out a program. Between two of its requests, and while a call of it is under
way, the dialogue goes on in any way. -/
inductive Conducts : Dialogue → DevtoolsProgram α → Exchange → Dialogue → α → Prop
  | done {d : Dialogue} (result : α) : Conducts d (.done result) [] d result
  | meanwhile {d middle after : Dialogue} {program : DevtoolsProgram α} {exchanged : Exchange}
      {result : α} (step : Step d middle) (rest : Conducts middle program exchanged after result) :
      Conducts d program exchanged after result
  | call {d middle after : Dialogue} {method : String} {params : Option Json}
      {session : Option String} {next : Except PageError Json → DevtoolsProgram α}
      {exchanged : Exchange} {result : α} (answer : Except PageError Json)
      (room : d.callers.length < UInt64.size) (goes : Onward (d.calling method session) middle)
      (returned : .returned d.connection.nextCall answer ∈ middle.log)
      (rest : Conducts middle (next answer) exchanged after result) :
      Conducts d (.ask (.call method params session) next)
        (⟨.call method params session, answer⟩ :: exchanged) after result
  | register {d after : Dialogue} {session target : String} {next : Unit → DevtoolsProgram α}
      {exchanged : Exchange} {result : α}
      (rest : Conducts (d.recording session target) (next ()) exchanged after result) :
      Conducts d (.ask (.register session target) next)
        (⟨.register session target, ()⟩ :: exchanged) after result
  | unregister {d after : Dialogue} {session : String} {next : Unit → DevtoolsProgram α}
      {exchanged : Exchange} {result : α}
      (rest : Conducts (d.striking session) (next ()) exchanged after result) :
      Conducts d (.ask (.unregister session) next)
        (⟨.unregister session, ()⟩ :: exchanged) after result

/-- The session the browser opens for an attempt, by its answer to the first command. -/
def openedBy : Exchange → Option String
  | ⟨.call _ _ _, .ok result⟩ :: _ => (result.field "sessionId").string?
  | _ => none

theorem Step.prefix (step : Step d after) : d.log <+: after.log := by
  cases step with
  | send | abandon => exact List.prefix_rfl
  | _ => exact List.prefix_append _ _

theorem Onward.prefix (goes : Onward d after) : d.log <+: after.log := by
  induction goes with
  | refl => exact List.prefix_rfl
  | tail _ step induction => exact induction.trans step.prefix

theorem Reaches.onward (reaches : Reaches d) (goes : Onward d after) : Reaches after := by
  induction goes with
  | refl => exact reaches
  | tail _ step induction => exact induction.step step

namespace Conducts

variable {program : DevtoolsProgram α} {result : α}

theorem done_inv {given : α} (conducts : Conducts d (.done given) exchanged after result) :
    exchanged = [] ∧ result = given ∧ Onward d after := by
  generalize same : (Program.done given : DevtoolsProgram α) = program at conducts
  induction conducts with
  | done => exact ⟨rfl, (Program.done.inj same).symm, .refl⟩
  | meanwhile step _ induction =>
    obtain ⟨none, equal, goes⟩ := induction same
    exact ⟨none, equal, goes.head step⟩
  | call | register | unregister => cases same

theorem call_inv {method : String} {params : Option Json} {on : Option String}
    {next : Except PageError Json → DevtoolsProgram α}
    (conducts : Conducts d (.ask (.call method params on) next) exchanged after result) :
    ∃ before middle answer rest, Onward d before ∧ before.callers.length < UInt64.size ∧
      Onward (before.calling method on) middle ∧
      .returned before.connection.nextCall answer ∈ middle.log ∧
      Conducts middle (next answer) rest after result ∧
      exchanged = ⟨.call method params on, answer⟩ :: rest := by
  generalize same : (Program.ask (.call method params on) next : DevtoolsProgram α) = program
    at conducts
  induction conducts with
  | done | register | unregister => cases same
  | meanwhile step _ induction =>
    obtain ⟨before, middle, answer, rest, goes, further⟩ := induction same
    exact ⟨before, middle, answer, rest, goes.head step, further⟩
  | call answer room goes returned rest =>
    cases same
    exact ⟨_, _, answer, _, .refl, room, goes, returned, rest, rfl⟩

theorem register_inv {next : Unit → DevtoolsProgram α}
    (conducts : Conducts d (.ask (.register session target) next) exchanged after result) :
    ∃ before rest, Onward d before ∧
      Conducts (before.recording session target) (next ()) rest after result ∧
      exchanged = ⟨.register session target, ()⟩ :: rest := by
  generalize same : (Program.ask (.register session target) next : DevtoolsProgram α) = program
    at conducts
  induction conducts with
  | done | call | unregister => cases same
  | meanwhile step _ induction =>
    obtain ⟨before, rest, goes, further⟩ := induction same
    exact ⟨before, rest, goes.head step, further⟩
  | register rest =>
    cases same
    exact ⟨_, _, .refl, rest, rfl⟩

theorem onward (conducts : Conducts d program exchanged after result) : Onward d after := by
  induction conducts with
  | done => exact .refl
  | meanwhile step _ induction => exact induction.head step
  | call _ room goes _ _ induction => exact .head (.call _ _ room) (goes.trans induction)
  | register _ induction => exact induction.head (.register _ _)
  | unregister _ induction => exact induction.head (.unregister _)

end Conducts

/-! ## Calls that return because the connection has ended -/

/-- A call that has been made belongs to a caller. -/
def Manned (d : Dialogue) : Prop :=
  ∀ id session, .called id session ∈ d.log → id ∈ d.callers.map Caller.id

theorem called_notMem_occurrences {c : Connection} {intake : Intake} {on : Option String} :
    .called id on ∉ c.occurrences intake := by
  cases intake <;> simp [occurrences, Intake.occurrence]

theorem Step.manned (step : Step d after) (manned : Manned d) : Manned after := by
  intro id session called
  cases step with
  | call =>
    rw [List.map_append, List.mem_append]
    rcases List.mem_append.mp called with old | new
    · exact .inl (manned id session old)
    · cases List.mem_singleton.mp new
      exact .inr List.mem_cons_self
  | send | abandon => exact (ids_moved _).symm ▸ manned id session called
  | fail | fetch | expire =>
    rw [ids_moved]
    exact manned id session ((List.mem_append.mp called).resolve_right (by simp))
  | takeIn intake =>
    have old := (List.mem_append.mp called).resolve_right called_notMem_occurrences
    have same := manned id session old
    rw [List.map_map]
    exact same
  | register | unregister =>
    exact manned id session ((List.mem_append.mp called).resolve_right (by simp))

theorem Reaches.manned (reaches : Reaches d) : Manned d := by
  induction reaches with
  | start => exact nofun
  | step _ step induction => exact step.manned induction

/-- The connection has ended since. -/
def EndsSince (d after : Dialogue) : Prop :=
  ∃ news, after.log = d.log ++ news ∧ .ended ∈ news

/-- A call that returns because the connection is closed has seen it end. -/
theorem Reaches.ends_of_closed (reaches : Reaches d) {method : String} {on : Option String}
    (room : d.callers.length < UInt64.size) (goes : Onward (d.calling method on) after)
    (returned : .returned d.connection.nextCall (.error .connectionClosed) ∈ after.log) :
    EndsSince d after := by
  have later := (reaches.step (.call method on room)).onward goes
  have first : d.log <+: after.log := (List.prefix_append _ _).trans goes.prefix
  obtain ⟨news, same⟩ := first
  obtain ⟨early, late, split⟩ := List.append_of_mem returned
  obtain ⟨before, session, since, made, stems⟩ := later.orderly.traced _ _ _ _ split
  have ended : .ended ∈ since := by
    cases stems
    assumption
  have absent : .called d.connection.nextCall session ∉ d.log := fun known =>
    reaches.orderly.fresh room (reaches.manned _ _ known)
  rw [made, List.append_assoc, List.cons_append, ← same] at split
  obtain ⟨between, _, rest⟩ := split_after absent split
  refine ⟨news, same.symm, ?_⟩
  rw [rest]
  simp [ended]

/-- A connection that has ended has no sessions but those recorded since. -/
def Emptied (d : Dialogue) : Prop :=
  ∀ before since, d.log = before ++ .ended :: since → d.connection.isOpen = false ∧
    ∀ session, session ∉ registrations since → d.connection.sessions.lookup session = none

theorem Emptied.append (emptied : Emptied d) {c : Connection} {callers : List Caller}
    (still : .ended ∉ news) (live : c.isOpen = d.connection.isOpen)
    (fewer : ∀ session, session ∉ registrations news → d.connection.sessions.lookup session = none →
      c.sessions.lookup session = none) : Emptied ⟨c, callers, d.log ++ news⟩ := by
  intro before since split
  obtain ⟨between, there, rfl⟩ := split_before still split
  obtain ⟨shut, empty⟩ := emptied before between there
  refine ⟨live.trans shut, fun session absent => ?_⟩
  rw [registrations_append, List.mem_append, not_or] at absent
  exact fewer session absent.2 (empty session absent.1)

theorem Step.emptied (step : Step d after) (emptied : Emptied d) : Emptied after := by
  cases step with
  | send | abandon => exact emptied
  | call | fail | fetch | expire =>
    exact emptied.append (by simp) rfl fun _ _ none => none
  | takeIn intake live =>
    cases intake with
    | ended => exact fun _ _ _ => ⟨rfl, fun _ _ => rfl⟩
    | text text =>
      intro before since split
      obtain ⟨between, there, _⟩ := split_before ended_notMem_occurrences split
      rw [(emptied before between there).1] at live
      cases live
  | register session target =>
    refine emptied.append (by simp) rfl fun other absent none => ?_
    have different : other ≠ session := by
      rintro rfl
      exact absent List.mem_cons_self
    have apart : (other == session) = false := beq_eq_false_iff_ne.mpr different
    rw [Connection.register, List.lookup_append, lookup_filter fun key => key != session]
    simp [none, List.lookup_cons, apart]
  | unregister session =>
    refine emptied.append (by simp) rfl fun other _ none => ?_
    rw [Connection.unregister, lookup_filter fun key => key != session, none, ite_self]

theorem Reaches.emptied (reaches : Reaches d) : Emptied d := by
  induction reaches with
  | start => exact fun before _ split => by cases before <;> cases split
  | step _ step induction => exact step.emptied induction

/-! ## What the attempt does -/

/-- Makes a session tell what happens in its page. -/
def enable (session : String) : DevtoolsProgram (Except PageError String) := do
  match ← send "Page.enable" none (some session) with
  | .error error => return .error error
  | .ok _ =>
    match ← send "Runtime.enable" none (some session) with
    | .error error => return .error error
    | .ok _ => return .ok session

/-- How an attempt goes on when the browser has answered the first command. -/
def follow (target : String) (result : Json) : DevtoolsProgram (Except PageError String) :=
  match (result.field "sessionId").string? with
  | none => return .error (.evaluation "attach returned no sessionId")
  | some session => do
    Program.request (Request.register session target)
    enable session

/-- The requests other than the commands. -/
def records (exchanged : Exchange) : List Request :=
  exchanged.filterMap fun entry =>
    match entry.request with
    | .call _ _ _ => none
    | request => some request

/-- Whoever fails to make a session tell what happens in its page records nothing. -/
theorem Conducts.enable_fails (reaches : Reaches d)
    (conducts : Conducts d (enable session) exchanged after (.error error)) :
    records exchanged = [] ∧ (error = .connectionClosed → EndsSince d after) := by
  have widen : ∀ {before middle : Dialogue}, Onward d before → EndsSince before middle →
      Onward middle after → EndsSince d after := by
    rintro before middle early ⟨news, same, ended⟩ late
    obtain ⟨first, before⟩ := early.prefix
    obtain ⟨last, after⟩ := late.prefix
    refine ⟨first ++ news ++ last, ?_, by simp [ended]⟩
    rw [← after, same, ← before]
    simp
  obtain ⟨before, middle, answer, rest, early, room, goes, returned, further, rfl⟩ :=
    conducts.call_inv
  have there := reaches.onward early
  cases answer with
  | error refused =>
    obtain ⟨rfl, same, late⟩ := further.done_inv
    cases same
    refine ⟨rfl, ?_⟩
    rintro rfl
    exact widen early (there.ends_of_closed room goes returned) late
  | ok value =>
    have there := (there.step (.call _ _ room)).onward goes
    have reaching : Onward d middle := early.trans (.head (.call _ _ room) goes)
    obtain ⟨before, _, answer, _, between, room, goes, returned, last, rfl⟩ := further.call_inv
    have there := there.onward between
    cases answer with
    | error refused =>
      obtain ⟨rfl, same, late⟩ := last.done_inv
      cases same
      refine ⟨rfl, ?_⟩
      rintro rfl
      exact widen (reaching.trans between) (there.ends_of_closed room goes returned) late
    | ok value =>
      obtain ⟨_, same, _⟩ := last.done_inv
      cases same

/-- A session that is recorded once stays so until it is lost or unregistered. -/
theorem hold_of_recorded (absent : session ∉ registrations since) :
    (.lost session ∈ since ∨ .unregistered session ∈ since →
        since.foldl (hold session) (some target) = none) ∧
      (.lost session ∉ since → .unregistered session ∉ since →
        since.foldl (hold session) (some target) = some target) := by
  induction since with
  | nil => simp
  | cons occurrence rest induction =>
    obtain ⟨later, other⟩ := absent_of_cons absent
    obtain ⟨gone, _⟩ := unregistered_stays later
    by_cases lost : occurrence = .lost session
    · subst lost
      simp [hold, gone]
    · by_cases parted : occurrence = .unregistered session
      · subst parted
        simp [hold, gone]
      · rw [List.foldl_cons, (hold_stays (some target) other parted lost).1]
        simpa [Ne.symm lost, Ne.symm parted] using induction later

/-! ## All of it -/

/-- What is left of a session from the time it has been recorded. -/
structure Leaves (session target : String) (since : List Occurrence) (after : Dialogue)
    (error : PageError) : Prop where
  entry : after.connection.sessions.lookup session = since.foldl (hold session) (some target)
  /-- If nobody records it again, the session stays unless it is lost or unregistered. -/
  stays : session ∉ registrations since → .lost session ∉ since → .unregistered session ∉ since →
    after.connection.sessions.lookup session = some target
  goes : session ∉ registrations since → (.lost session ∈ since ∨ .unregistered session ∈ since) →
    after.connection.sessions.lookup session = none
  /-- The end of the connection takes the session away. -/
  closed : session ∉ registrations since → error = .connectionClosed →
    after.connection.sessions.lookup session = none

theorem Reaches.leaves (reaches : Reaches after)
    (split : after.log = log ++ .registered session target :: since)
    (ended : error = .connectionClosed → .ended ∈ since) :
    Leaves session target since after error := by
  have entry : after.connection.sessions.lookup session =
      since.foldl (hold session) (some target) := by
    rw [reaches.registered.held, split, List.foldl_append, List.foldl_cons, hold, if_pos rfl]
  refine ⟨entry, fun absent lost parted => ?_, fun absent gone => ?_, fun absent shut => ?_⟩
  · exact entry.trans ((hold_of_recorded absent).2 lost parted)
  · exact entry.trans ((hold_of_recorded absent).1 gone)
  · obtain ⟨early, late, rfl⟩ := List.append_of_mem (ended shut)
    rw [registrations_append, List.mem_append, not_or] at absent
    have same : after.log = (log ++ .registered session target :: early) ++ .ended :: late := by
      rw [split, List.append_assoc, List.cons_append]
    exact (reaches.emptied _ _ same).2 session (absent_of_cons absent.2).1

/-- What a failed attempt to attach to a target leaves. -/
structure FailedAttach (d : Dialogue) (target : String) (exchanged : Exchange) (after : Dialogue)
    (error : PageError) : Prop where
  /-- The attempt records the session that the browser has opened for it, and nothing else; it does
  not take that back. -/
  only : records exchanged = (openedBy exchanged).toList.map fun session =>
    .register session target
  left : ∀ session, openedBy exchanged = some session → ∃ before since,
    after.log = d.log ++ before ++ .registered session target :: since ∧
      Leaves session target since after error

/-- If an attempt to attach fails, the session that the browser has opened for it is left recorded
unless its loss has been taken in since it was recorded. -/
theorem Reaches.failed_attach (reaches : Reaches d)
    (conducts : Conducts d (attach target) exchanged after (.error error)) :
    FailedAttach d target exchanged after error := by
  obtain ⟨first, middle, answer, rest, early, room, goes, returned, further, rfl⟩ :=
    conducts.call_inv
  cases answer with
  | error refused =>
    obtain ⟨rfl, _, _⟩ := Conducts.done_inv further
    exact ⟨rfl, nofun⟩
  | ok result =>
    have there := (reaches.onward early |>.step (.call _ _ room)).onward goes
    have reaching : Onward d middle := early.trans (.head (.call _ _ room) goes)
    have follows : Conducts middle (follow target result) rest after (.error error) := further
    unfold follow at follows
    cases named : (result.field "sessionId").string? with
    | none =>
      rw [named] at follows
      obtain ⟨rfl, _, _⟩ := follows.done_inv
      refine ⟨by simp [records, openedBy, named], fun session opened => ?_⟩
      rw [openedBy, named] at opened
      cases opened
    | some session =>
      rw [named] at follows
      obtain ⟨before, last, between, enables, rfl⟩ := follows.register_inv
      obtain ⟨none, ended⟩ :=
        enables.enable_fails ((there.onward between).step (.register session target))
      obtain ⟨since, split⟩ := enables.onward.prefix
      obtain ⟨start, earlier⟩ := Onward.prefix (reaching.trans between)
      have log : after.log = d.log ++ start ++ .registered session target :: since := by
        rw [← split, recording, ← earlier]
        simp
      refine ⟨?_, fun other same => ?_⟩
      · rw [openedBy, named]
        exact congrArg (Request.register session target :: ·) none
      · obtain rfl := Option.some.inj (named.symm.trans same)
        refine ⟨start, since, log, (reaches.onward conducts.onward).leaves log fun shut => ?_⟩
        obtain ⟨news, later, here⟩ := ended shut
        rw [← split] at later
        exact List.append_cancel_left later ▸ here

/-! ## A session that stays recorded -/

/-- The caller of an attempt's first command, and the one of its second. -/
def attachCall (phase : Phase) (answer : Option (Except PageError Json)) : Caller :=
  ⟨1, "Target.attachToTarget", none, phase, answer⟩

def enableCall (phase : Phase) (answer : Option (Except PageError Json)) : Caller :=
  ⟨2, "Page.enable", some "S", phase, answer⟩

def sessionOpened : String :=
  "\x7b\"id\":1,\"result\":\x7b\"sessionId\":\"S\"\x7d\x7d"

def enableRefused : String :=
  "\x7b\"id\":2,\"error\":\x7b\"code\":-32000,\"message\":\"refused\"\x7d\x7d"

/-- The browser has opened a session for an attempt. -/
def opened : Dialogue where
  connection := ⟨2, [], [], true⟩
  callers := [attachCall .over (some (.ok (.ofMembers [("sessionId", .str "S")])))]
  log := [.called 1 none, .received sessionOpened,
    .told (.completed 1 (.ok (.ofMembers [("sessionId", .str "S")]))),
    .returned 1 (.ok (.ofMembers [("sessionId", .str "S")]))]

/-- The next command of the attempt has been refused. -/
def refused : Dialogue where
  connection := ⟨3, [], [("S", "T")], true⟩
  callers := opened.callers ++ [enableCall .over (some (.error (.refused (-32000) "refused")))]
  log := opened.log ++ [.registered "S" "T", .called 2 (some "S"), .received enableRefused,
    .told (.completed 2 (.error (.refused (-32000) "refused"))),
    .returned 2 (.error (.refused (-32000) "refused"))]

theorem onward_opened : Onward (start.calling "Target.attachToTarget" none) opened := by
  have brought : Connection.takeIn ⟨2, [⟨1, none⟩], [], true⟩ (.text sessionOpened) =
      (⟨2, [], [], true⟩, [.completed 1 (.ok (.ofMembers [("sessionId", .str "S")]))]) := by cbv
  have lost : Connection.lostBy ⟨2, [⟨1, none⟩], [], true⟩ (.text sessionOpened) = [] := by cbv
  have asked : Onward (start.calling "Target.attachToTarget" none)
      ⟨⟨2, [⟨1, none⟩], [], true⟩, [attachCall .sent none], [.called 1 none]⟩ :=
    .single (.send (attachCall .sending none) List.mem_cons_self rfl)
  have answered := asked.tail (.takeIn (.text sessionOpened) rfl)
  rw [Connection.occurrences, brought, lost] at answered
  exact answered.tail (.fetch (attachCall .sent _) _ List.mem_cons_self rfl rfl)

theorem takeIn_of_read {c : Connection} {text : String} {message : Message}
    (read : read? text = some message) : c.takeIn (.text text) = c.noticeMessage message := by
  cases found : Message.decoder.readText text with
  | error refusal =>
    rw [read?, found] at read
    cases read
  | ok other =>
    rw [read?, found] at read
    cases read
    rw [takeIn, receive, found]

theorem onward_refused :
    Onward ((opened.recording "S" "T").calling "Page.enable" (some "S")) refused := by
  have read : read? enableRefused =
      some ⟨some 2, none, some ⟨-32000, "refused"⟩, none, .null, none⟩ := by decide +kernel
  have brought : Connection.takeIn ⟨3, [⟨2, some "S"⟩], [("S", "T")], true⟩ (.text enableRefused) =
      (⟨3, [], [("S", "T")], true⟩, [.completed 2 (.error (.refused (-32000) "refused"))]) :=
    takeIn_of_read read
  have lost : Connection.lostBy ⟨3, [⟨2, some "S"⟩], [("S", "T")], true⟩ (.text enableRefused) =
      [] := by rw [lostBy, read]
  have asked : Onward ((opened.recording "S" "T").calling "Page.enable" (some "S"))
      ⟨⟨3, [⟨2, some "S"⟩], [("S", "T")], true⟩, opened.callers ++ [enableCall .sent none],
        opened.log ++ [.registered "S" "T", .called 2 (some "S")]⟩ :=
    .single (.send (enableCall .sending none) (List.mem_cons_of_mem _ List.mem_cons_self) rfl)
  have answered := asked.tail (.takeIn (.text enableRefused) rfl)
  rw [Connection.occurrences, brought, lost] at answered
  exact answered.tail (.fetch (enableCall .sent _) _ (List.mem_cons_of_mem _ List.mem_cons_self)
    rfl rfl)

/-- The attempt that has been refused. -/
def refusedExchange : Exchange :=
  [⟨.call "Target.attachToTarget"
      (some (.ofMembers [("targetId", .str "T"), ("flatten", .bool true)])) none,
      .ok (.ofMembers [("sessionId", .str "S")])⟩,
    ⟨.register "S" "T", ()⟩,
    ⟨.call "Page.enable" none (some "S"), .error (.refused (-32000) "refused")⟩]

theorem conducts_refused :
    Conducts start (attach "T") refusedExchange refused (.error (.refused (-32000) "refused")) := by
  refine .call _ (by decide) onward_opened (List.mem_of_getLast? rfl) ?_
  refine .register (.call _ (by decide) onward_refused ?_ (.done _))
  exact List.mem_of_getLast? rfl

theorem failed_attach_when_refused :
    openedBy refusedExchange = some "S" ∧
      FailedAttach start "T" refusedExchange refused (.refused (-32000) "refused") :=
  ⟨rfl, Reaches.failed_attach .start conducts_refused⟩

/-- The session of an attempt that has been refused stays recorded. -/
theorem refused_session_stays :
    ¬ ∀ (d : Dialogue) (target session : String) (error : PageError) (after : Dialogue)
      (exchanged : Exchange), Reaches d →
      Conducts d (attach target) exchanged after (.error error) →
      openedBy exchanged = some session →
        after.connection.sessions.lookup session = none := by
  intro claim
  have gone := claim _ _ "S" _ _ _ .start conducts_refused rfl
  cases gone

end BrowserScript.Devtools.Dialogue

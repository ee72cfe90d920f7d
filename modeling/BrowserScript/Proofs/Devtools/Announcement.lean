import BrowserScript.Proofs.Devtools.Dialogue
import Mathlib

/-!
# The announcement of lost sessions

What the log says of a session decides whether it is attached and how often its loss is announced,
however often and in whatever way the browser reports it. Main definitions: `Dialogue.hold`,
`Dialogue.losses`, `Dialogue.Announced`. Main results: `Dialogue.Reaches.registered`,
`Dialogue.Reaches.losses_announced`.
-/

set_option autoImplicit false

namespace BrowserScript.Devtools.Dialogue

open Connection

variable {d after : Dialogue} {c : Connection} {intake : Intake} {id : CallId}
  {session target : String} {held : Option String} {occurrence : Occurrence}
  {log news before between since : List Occurrence}

/-! ## What the log says of a session -/

/-- To which target a session is attached after something has happened. -/
def hold (session : String) (held : Option String) : Occurrence → Option String
  | .registered other target => if other = session then some target else held
  | .unregistered other | .lost other => if other = session then none else held
  | _ => held

/-- From which target a session is lost when something happens. -/
def lossAt (session : String) (held : Option String) : Occurrence → List String
  | .lost other => if other = session then held.toList else []
  | _ => []

/-- The targets from which a session is lost while it is attached. -/
def losses (session : String) (held : Option String) : List Occurrence → List String
  | [] => []
  | occurrence :: rest =>
    lossAt session held occurrence ++ losses session (hold session held occurrence) rest

/-- The sessions that have been registered, in order. -/
def registrations (log : List Occurrence) : List String :=
  log.filterMap fun
    | .registered session _ => some session
    | _ => none

theorem losses_append : losses session held (log ++ news) =
    losses session held log ++ losses session (log.foldl (hold session) held) news := by
  induction log generalizing held with
  | nil => rfl
  | cons occurrence rest induction =>
    rw [List.cons_append, losses, losses, induction, List.append_assoc]
    rfl

theorem registrations_append :
    registrations (log ++ news) = registrations log ++ registrations news := List.filterMap_append

theorem registered_mem (member : .registered session target ∈ log) :
    session ∈ registrations log := List.mem_filterMap.mpr ⟨_, member, rfl⟩

/-- What is not registered is not attached, and so it is not lost. -/
theorem unregistered_stays (absent : session ∉ registrations log) :
    log.foldl (hold session) none = none ∧ losses session none log = [] := by
  induction log with
  | nil => exact ⟨rfl, rfl⟩
  | cons occurrence rest induction =>
    have still : hold session none occurrence = none := by
      cases occurrence with
      | registered other target =>
        have different : other ≠ session := by
          rintro rfl
          exact absent (registered_mem List.mem_cons_self)
        exact if_neg different
      | lost other | unregistered other => exact ite_self _
      | called | received | ended | told | returned => rfl
    have nothing : lossAt session none occurrence = [] := by
      cases occurrence with
      | lost other => exact ite_self _
      | called | received | ended | told | returned | registered | unregistered => rfl
    have later : session ∉ registrations rest := by
      intro member
      rw [← List.singleton_append, registrations_append] at absent
      exact absent (List.mem_append_right _ member)
    rw [List.foldl_cons, losses, still, nothing]
    exact induction later

theorem absent_of_cons (absent : session ∉ registrations (occurrence :: log)) :
    session ∉ registrations log ∧ ∀ target, occurrence ≠ .registered session target := by
  rw [← List.singleton_append, registrations_append, List.mem_append, not_or] at absent
  refine ⟨absent.2, ?_⟩
  rintro target rfl
  exact absent.1 (registered_mem List.mem_cons_self)

/-- An attached session stays so, unless it is lost or unregistered. -/
theorem hold_stays (held : Option String)
    (registered : ∀ target, occurrence ≠ .registered session target)
    (unregistered : occurrence ≠ .unregistered session) (lost : occurrence ≠ .lost session) :
    hold session held occurrence = held ∧ lossAt session held occurrence = [] := by
  cases occurrence with
  | registered other target =>
    have different : other ≠ session := fun same => registered target (same ▸ rfl)
    exact ⟨if_neg different, rfl⟩
  | unregistered other =>
    have different : other ≠ session := fun same => unregistered (same ▸ rfl)
    exact ⟨if_neg different, rfl⟩
  | lost other =>
    have different : other ≠ session := fun same => lost (same ▸ rfl)
    exact ⟨if_neg different, if_neg different⟩
  | called | received | ended | told | returned => exact ⟨rfl, rfl⟩

/-- However often a session is lost, only the first time counts. -/
theorem losses_of_lost
    (absent : session ∉ registrations (between ++ .lost session :: log))
    (kept : .unregistered session ∉ between) :
    losses session (some target) (between ++ .lost session :: log) = [target] := by
  have gone : ∀ rest, session ∉ registrations rest →
      losses session (some target) (.lost session :: rest) = [target] := by
    intro rest absent
    rw [losses, lossAt, if_pos rfl, hold, if_pos rfl, (unregistered_stays absent).2]
    rfl
  induction between with
  | nil => exact gone log (absent_of_cons absent).1
  | cons occurrence rest induction =>
    obtain ⟨later, other⟩ := absent_of_cons absent
    by_cases lost : occurrence = .lost session
    · rw [lost]
      exact gone _ later
    · have parted : occurrence ≠ .unregistered session := by
        rintro rfl
        exact kept List.mem_cons_self
      obtain ⟨holds, nothing⟩ := hold_stays (some target) other parted lost
      rw [List.cons_append, losses, holds, nothing, List.nil_append]
      exact induction later fun member => kept (List.mem_cons_of_mem _ member)

/-- A session that has been unregistered before it is lost is not lost while it is attached. -/
theorem losses_of_kept (absent : session ∉ registrations since)
    (kept : ∀ between rest, since = between ++ .lost session :: rest →
      .unregistered session ∈ between) : losses session (some target) since = [] := by
  induction since with
  | nil => rfl
  | cons occurrence rest induction =>
    obtain ⟨later, other⟩ := absent_of_cons absent
    have lost : occurrence ≠ .lost session := by
      rintro rfl
      cases kept [] rest rfl
    by_cases parted : occurrence = .unregistered session
    · subst parted
      rw [losses, hold, if_pos rfl, (unregistered_stays later).2]
      rfl
    · obtain ⟨holds, nothing⟩ := hold_stays (some target) other parted lost
      rw [losses, holds, nothing, List.nil_append]
      refine induction later fun between tail split => ?_
      have member := kept (occurrence :: between) tail (by rw [split, List.cons_append])
      exact (List.mem_cons.mp member).resolve_left (Ne.symm parted)

/-- What is told of a session that is registered only once. -/
theorem losses_since (unique : (registrations log).Nodup)
    (split : log = before ++ .registered session target :: since) :
    losses session none log = losses session (some target) since ∧
      session ∉ registrations since := by
  have apart : registrations log = registrations before ++ session :: registrations since := by
    rw [split, registrations_append]
    rfl
  rw [apart] at unique
  have earlier : session ∉ registrations before := fun member =>
    (List.nodup_append.mp unique).2.2 _ member _ List.mem_cons_self rfl
  have later : session ∉ registrations since :=
    (List.nodup_cons.mp (List.nodup_append.mp unique).2.1).1
  obtain ⟨unheld, none⟩ := unregistered_stays earlier
  refine ⟨?_, later⟩
  rw [split, losses_append, none, unheld, losses, hold, if_pos rfl]
  rfl

/-! ## What is registered and what is announced -/

/-- Something that callers do. -/
def isCall : Occurrence → Bool
  | .called _ _ | .returned _ _ => true
  | _ => false

/-- The log says which sessions are attached, and which losses have been announced. -/
structure Registered (d : Dialogue) : Prop where
  keyed : (d.connection.sessions.map Prod.fst).Nodup
  held : ∀ session,
    d.connection.sessions.lookup session = d.log.foldl (hold session) none
  told : ∀ session, announced session (toldOf d.log) = losses session none d.log
  closed : .ended ∈ d.log → d.connection.isOpen = false ∧
    (toldOf d.log).getLast? = some (.event .disconnected)

theorem follows_occurrences :
    (c.occurrences intake).foldl (hold session) held =
        (if session ∈ c.lostBy intake then none else held) ∧
      losses session held (c.occurrences intake) =
        if session ∈ c.lostBy intake then held.toList else [] := by
  have told : ∀ (notices : List Notice) (held : Option String),
      (notices.map Occurrence.told).foldl (hold session) held = held ∧
        losses session held (notices.map Occurrence.told) = [] := by
    intro notices
    induction notices with
    | nil => exact fun _ => ⟨rfl, rfl⟩
    | cons notice rest induction => exact fun held => induction held
  have lost : ∀ (gone : List String) (held : Option String),
      (gone.map Occurrence.lost).foldl (hold session) held =
          (if session ∈ gone then none else held) ∧
        losses session held (gone.map Occurrence.lost) =
          if session ∈ gone then held.toList else [] := by
    intro gone
    induction gone with
    | nil => exact fun _ => ⟨rfl, rfl⟩
    | cons first rest induction =>
      intro held
      rw [List.map_cons, List.foldl_cons, losses, (induction _).1, (induction _).2, hold, lossAt]
      by_cases same : first = session
      · simp [same]
      · simp [same, Ne.symm same]
  have first : hold session held intake.occurrence = held ∧
      lossAt session held intake.occurrence = [] := by
    cases intake <;> exact ⟨rfl, rfl⟩
  rw [Connection.occurrences, List.foldl_cons, losses, first.1, first.2, List.foldl_append,
    losses_append, (told _ _).1, (told _ _).2, (lost _ _).1, (lost _ _).2, List.append_nil,
    List.nil_append]
  exact ⟨rfl, rfl⟩

namespace Registered

theorem takeIn (registered : Registered d) (live : d.connection.isOpen = true) (intake : Intake) :
    Registered
      { connection := (d.connection.takeIn intake).1
        callers := d.callers.map (Caller.hear (d.connection.takeIn intake).2)
        log := d.log ++ d.connection.occurrences intake } := by
  have brings := d.connection.takeIn_brings intake
  have left := brings.sessions_eq
  refine ⟨?_, fun session => ?_, fun session => ?_, fun ended => ?_⟩
  · rw [left]
    exact registered.keyed.sublist (List.filter_sublist.map Prod.fst)
  · rw [left, lookup_filter fun key => !(d.connection.lostBy intake).contains key,
      List.foldl_append, follows_occurrences.1, registered.held]
    by_cases gone : session ∈ d.connection.lostBy intake <;> simp [gone]
  · rw [toldOf_append, toldOf_occurrences, announced_append, registered.told, losses_append,
      follows_occurrences.2, brings.announced_eq registered.keyed, registered.held]
  · cases intake with
    | ended =>
      refine ⟨rfl, ?_⟩
      rw [toldOf_append, toldOf_occurrences]
      change (toldOf d.log ++ (_ ++ [Notice.event .disconnected])).getLast? = _
      rw [← List.append_assoc, List.getLast?_append]
      rfl
    | text text =>
      have earlier := (List.mem_append.mp ended).resolve_right ended_notMem_occurrences
      rw [(registered.closed earlier).1] at live
      cases live

theorem closed_append (registered : Registered d) (untold : toldOf news = [])
    (still : .ended ∉ news) (ended : .ended ∈ d.log ++ news) :
    d.connection.isOpen = false ∧
      (toldOf (d.log ++ news)).getLast? = some (.event .disconnected) := by
  rw [toldOf_append, untold, List.append_nil]
  exact registered.closed ((List.mem_append.mp ended).resolve_right still)

theorem started : Registered start where
  keyed := List.nodup_nil
  held _ := rfl
  told _ := rfl
  closed ended := by cases ended

/-- The sessions are left alone. -/
theorem aside (registered : Registered d) {callers : List Caller}
    (same : c.sessions = d.connection.sessions) (live : c.isOpen = d.connection.isOpen)
    (neutral : isCall occurrence = true) :
    Registered { connection := c, callers, log := d.log ++ [occurrence] } := by
  have follows : ∀ session held, hold session held occurrence = held ∧
      lossAt session held occurrence = [] := by
    intro session held
    refine hold_stays held ?_ ?_ ?_
    · rintro target rfl
      cases neutral
    · rintro rfl
      cases neutral
    · rintro rfl
      cases neutral
  have untold : toldOf [occurrence] = [] := by
    cases occurrence with
    | called | returned => rfl
    | received | ended | lost | told | registered | unregistered => cases neutral
  have still : .ended ∉ [occurrence] := by
    intro last
    rw [← List.mem_singleton.mp last] at neutral
    cases neutral
  refine ⟨same ▸ registered.keyed, fun session => ?_, fun session => ?_, fun ended => ?_⟩
  · rw [same, List.foldl_append, registered.held]
    exact (follows session _).1.symm
  · rw [toldOf_append, untold, List.append_nil, losses_append, registered.told, losses,
      (follows session _).2]
    exact (List.append_nil _).symm
  · rw [live]
    exact registered.closed_append untold still ended

theorem register (registered : Registered d) (session target : String) :
    Registered { d with
      connection := d.connection.register session target
      log := d.log ++ [.registered session target] } := by
  refine ⟨register_keyed registered.keyed session target, fun other => ?_, fun other => ?_,
    registered.closed_append rfl (by simp)⟩
  · rw [List.foldl_append, Connection.register, List.lookup_append,
      lookup_filter fun key => key != session, registered.held]
    by_cases same : session = other
    · subst same
      simp [hold]
    · have different : (other == session) = false := beq_eq_false_iff_ne.mpr (Ne.symm same)
      simp [hold, same, Ne.symm same, List.lookup_cons, different]
  · rw [toldOf_append, losses_append, ← registered.told, losses, announced_append]
    rfl

theorem unregister (registered : Registered d) (session : String) :
    Registered { d with
      connection := d.connection.unregister session
      log := d.log ++ [.unregistered session] } := by
  refine ⟨registered.keyed.sublist (List.filter_sublist.map Prod.fst), fun other => ?_,
    fun other => ?_, registered.closed_append rfl (by simp)⟩
  · rw [List.foldl_append, Connection.unregister, lookup_filter fun key => key != session,
      registered.held]
    by_cases same : session = other
    · subst same
      simp [hold]
    · simp [hold, same, Ne.symm same]
  · rw [toldOf_append, losses_append, ← registered.told, losses, announced_append]
    rfl

end Registered

theorem Step.registered (step : Step d after) (registered : Registered d) : Registered after := by
  cases step with
  | call method session room => exact registered.aside rfl rfl rfl
  | fail caller reason member sending => exact registered.aside rfl rfl rfl
  | fetch caller result member sent answered => exact registered.aside rfl rfl rfl
  | expire caller member sent unanswered => exact registered.aside rfl rfl rfl
  | send caller member sending =>
    exact ⟨registered.keyed, registered.held, registered.told, registered.closed⟩
  | abandon caller member =>
    exact ⟨registered.keyed, registered.held, registered.told, registered.closed⟩
  | takeIn intake live => exact registered.takeIn live intake
  | register session target => exact registered.register session target
  | unregister session => exact registered.unregister session

theorem Reaches.registered (reaches : Reaches d) : Registered d := by
  induction reaches with
  | start => exact .started
  | step _ step registered => exact step.registered registered

/-! ## Every loss is announced once -/

/-- What is announced of lost sessions, of closed targets and of the end. -/
structure Announced (d : Dialogue) : Prop where
  /-- A session that is lost while it is attached is announced once, with its own target. -/
  once : ∀ before session target between rest,
    d.log = before ++ .registered session target :: (between ++ .lost session :: rest) →
    .unregistered session ∉ between → announced session (toldOf d.log) = [target]
  /-- A session that is not lost, or only after it has been detached on purpose, is not. -/
  silent : ∀ before session target since,
    d.log = before ++ .registered session target :: since →
    (∀ between rest, since = between ++ .lost session :: rest →
      .unregistered session ∈ between) → announced session (toldOf d.log) = []
  /-- A session that has not been attached is not announced. -/
  foreign : ∀ session, (∀ target, .registered session target ∉ d.log) →
    announced session (toldOf d.log) = []
  /-- When the loss of a session is announced, the commands sent to it have failed. -/
  failed_before : ∀ intake early late session target reason,
    (d.connection.takeIn intake).2 = early ++ .event (.detached target session reason) :: late →
    ∀ id, ⟨id, some session⟩ ∈ d.connection.waiting →
      (∃ error, .completed id (.error error) ∈ early) ∧
        id ∉ (d.connection.takeIn intake).1.waiting.map Waiting.id
  /-- When a target is announced to be closed, the loss of its sessions has been announced. -/
  announced_before : ∀ intake early late target,
    (d.connection.takeIn intake).2 = early ++ .event (.targetClosed target) :: late →
    ∀ session, (session, target) ∈ d.connection.sessions →
      (∃ reason, .event (.detached target session reason) ∈ early) ∧
        (session, target) ∉ (d.connection.takeIn intake).1.sessions
  /-- The end of the connection leaves no session, and is announced last. -/
  ended : (d.connection.takeIn .ended).1.sessions = [] ∧
    (d.connection.takeIn .ended).2.getLast? = some (.event .disconnected)
  /-- Nothing is announced after it. -/
  last : .ended ∈ d.log → (toldOf d.log).getLast? = some (.event .disconnected)

/-- As long as no session is attached twice, every loss is announced exactly once. -/
theorem Reaches.losses_announced (reaches : Reaches d) (unique : (registrations d.log).Nodup) :
    Announced d where
  once before session target between rest split kept := by
    obtain ⟨same, absent⟩ := losses_since unique split
    rw [reaches.registered.told, same]
    exact losses_of_lost absent kept
  silent before session target since split kept := by
    obtain ⟨same, absent⟩ := losses_since unique split
    rw [reaches.registered.told, same]
    exact losses_of_kept absent kept
  foreign session unknown := by
    rw [reaches.registered.told]
    refine (unregistered_stays fun member => ?_).2
    obtain ⟨occurrence, here, same⟩ := List.mem_filterMap.mp member
    cases occurrence <;> cases same
    exact unknown _ here
  failed_before intake early late session target reason split id waits := by
    have brings := d.connection.takeIn_brings intake
    obtain ⟨error, failed⟩ := brings.failed_first split waits
    have completed : .completed id (.error error) ∈ (d.connection.takeIn intake).2 :=
      split ▸ List.mem_append_left _ failed
    have apart := (brings.conserves reaches.orderly.waiting_single).nodup_iff.mpr
      reaches.orderly.waiting_single
    exact ⟨⟨error, failed⟩, fun still =>
      (List.nodup_append.mp apart).2.2 id (mem_completions completed) id still rfl⟩
  announced_before intake early late target split session attached :=
    (d.connection.takeIn_brings intake).announced_first reaches.registered.keyed split attached
  ended := ⟨rfl, List.getLast?_concat⟩
  last ended := (reaches.registered.closed ended).2

/-! ## A target that is closed -/

/-- Of two sessions of a target one has been detached on purpose, and a command waits on the
other. -/
def twoSessions : Dialogue where
  connection := ⟨2, [⟨1, some "S"⟩], [("S", "T")], true⟩
  callers := [⟨1, "Page.enable", some "S", .sending, none⟩]
  log := [.registered "S" "T", .registered "R" "T", .unregistered "R", .called 1 (some "S")]

def targetClosed : String :=
  "\x7b\"method\":\"Target.targetDestroyed\",\"params\":\x7b\"targetId\":\"T\"\x7d\x7d"

/-- The target is reported to be closed, twice, and then the connection ends. -/
def allClosed : Dialogue where
  connection := ⟨2, [], [], false⟩
  callers := [⟨1, "Page.enable", some "S", .sending, some (.error (.sessionDetached "S"))⟩]
  log := twoSessions.log ++ [.received targetClosed, .lost "S",
    .told (.completed 1 (.error (.sessionDetached "S"))),
    .told (.event (.detached "T" "S" "target destroyed")),
    .told (.event (.targetClosed "T")), .received targetClosed,
    .told (.event (.targetClosed "T")), .ended, .told (.event .disconnected)]

theorem reaches_twoSessions : Reaches twoSessions :=
  .step (.step (.step (.step .start (.register "S" "T")) (.register "R" "T"))
    (.unregister "R")) (.call "Page.enable" (some "S") (by decide))

theorem reaches_allClosed : Reaches allClosed := by
  have brought : twoSessions.connection.takeIn (.text targetClosed) =
      (⟨2, [], [], true⟩, [.completed 1 (.error (.sessionDetached "S")),
        .event (.detached "T" "S" "target destroyed"), .event (.targetClosed "T")]) := by cbv
  have lost : twoSessions.connection.lostBy (.text targetClosed) = ["S"] := by cbv
  have again : takeIn ⟨2, [], [], true⟩ (.text targetClosed) =
      (⟨2, [], [], true⟩, [.event (.targetClosed "T")]) := by cbv
  have none : lostBy ⟨2, [], [], true⟩ (.text targetClosed) = [] := by cbv
  have first := Reaches.step reaches_twoSessions (.takeIn (.text targetClosed) rfl)
  rw [Connection.occurrences, brought, lost] at first
  have second := first.step (.takeIn (.text targetClosed) rfl)
  rw [Connection.occurrences, again, none] at second
  exact second.step (.takeIn .ended rfl)

theorem losses_announced_at_close :
    (registrations allClosed.log).Nodup ∧ announced "S" (toldOf allClosed.log) = ["T"] ∧
      announced "R" (toldOf allClosed.log) = [] ∧ Announced allClosed :=
  ⟨by decide, by decide, by decide, reaches_allClosed.losses_announced (by decide)⟩

end BrowserScript.Devtools.Dialogue

import BrowserScript.Proofs.Session.Residence
import BrowserScript.Proofs.Session.Whereabouts

/-!
# Targets that a run leaves detached

When a run that is to detach has ended, its target is detached and stays so until somebody wants a
session of it again, and every session that was obtained for the target meanwhile has been given up
or is known to be gone. The only exceptions are reattachments whose slots had been forgotten by the
time when the run lined up for its lease, and the sessions that they obtain. Main definitions:
`Visit.Recorded`, `Session.Ceded`, `Session.LeavesDetached`. Main results: `Visit.Recorded.step`,
`Session.Visits.leaves_detached`.
-/

set_option autoImplicit false

namespace BrowserScript.Session

open Manager
open Run (Leg Request)

variable {settings : Settings} {orderly : Prop} {target session : String} {detach : Bool}
  {v after : Visit} {start : Point} {id : OperationId} {request : Request}
  {next : request.Answer → RunProgram RunResult} {wait : Wait} {move : Move}
  {arrival : Option Arrival} {activity : Activity} {news : Run.Log} {handle : SessionHandle}

namespace Visit

/-! ## What is recorded meanwhile -/

/-- The session has been obtained, and if it is gone then it has been seen to fail since. -/
def Shown (p : Point) (session : String) (gone : Bool) : Prop :=
  (∃ target home, .obtained session target home ∈ p.log) ∧
    (gone = true → .failed session ∈ since session p.log)

section

variable {p q : Point} {gone : Bool}

theorem Shown.step (shown : Shown p session gone) (step : p.Step q) : Shown q session gone := by
  obtain ⟨⟨target, home, obtained⟩, failed⟩ := shown
  cases step with
  | wait => exact ⟨⟨target, home, obtained⟩, failed⟩
  | fails lost =>
    refine ⟨⟨target, home, List.mem_cons_of_mem _ obtained⟩, fun heard => ?_⟩
    rw [since_failed]
    exact List.mem_cons_of_mem _ (failed heard)
  | move move fits =>
    refine ⟨⟨target, home, List.mem_append_right _ obtained⟩, fun heard => ?_⟩
    rw [fits.since_after obtained]
    exact List.mem_append_right _ (failed heard)

/-- A call on the session fails. -/
theorem Shown.fails (shown : Shown p session gone) (heard : Bool) :
    Shown { p with log := (if heard then [.failed session] else []) ++ p.log } session
      (gone || heard) := by
  cases heard with
  | false =>
    rw [Bool.or_false]
    exact shown
  | true =>
    obtain ⟨⟨target, home, obtained⟩, _⟩ := shown
    refine ⟨⟨target, home, List.mem_append_right _ obtained⟩, fun _ => ?_⟩
    exact @since_failed session p.log session ▸ List.mem_cons_self

/-- A session that is published has been obtained. -/
theorem Shown.of_attached (chronicled : Chronicled p) {i : SlotId}
    (attached : (p.manager.slot i).state = .attached handle) :
    Shown p handle.sessionId false :=
  ⟨⟨_, _, chronicled.traced i _ (.inl (held?_attached attached))⟩, nofun⟩

end

/-- Nobody gives up an attempt to attach to the target. -/
theorem Takes.undropped (takes : v.Takes orderly target move arrival activity news)
    (chronicled : Chronicled v.point) (stands : Stands settings target v)
    (obtained : .obtained session target true ∈ v.point.log) :
    .dropped session ∉ v.point.manager.reports v.point.now move := by
  intro dropped
  obtain ⟨id, i, rfl, waits⟩ := reports_dropped dropped
  cases takes with
  | others foreign =>
    have traced := chronicled.traced i session (.inr ⟨id, waits⟩)
    obtain ⟨home, _⟩ := chronicled.unique _ _ _ _ _ traced obtained
    obtain ⟨operation, here, awaited⟩ := Option.bind_eq_some_iff.mp waits
    obtain ⟨other, there, inSlot, _⟩ := waiting?_eq_some waits
    cases here.symm.trans there
    cases operation with
    | ensure j stage =>
      obtain rfl : j = i := inSlot
      obtain ⟨next, own⟩ := stands.wanted id j stage here home
      exact foreign.apart id rfl (.inr ⟨_, _, own⟩)
    | reattach j stage => exact foreign.patient id j stage rfl here
    | detach | acquire | recover => cases awaited
  | @begins request _ _ _ _ _ _ _ begins => cases request <;> cases begins

/-- Who obtains a session for a slot that has been forgotten was there when the run lined up. -/
theorem Resides.orphaned {arrival : Arrival} (resides : Resides settings target detach v)
    (here : v.arrival = some arrival) (away : v.leg ≠ .home false)
    (allowed : v.point.manager.Allows move)
    (obtained : .obtained session target false ∈ v.point.manager.reports v.point.now move) :
    ∃ id, arrival.point.manager.Orphaned id := by
  obtain ⟨_, stands, lodges, rested⟩ := resides
  have sound := stands.reaches.sound
  obtain ⟨id, rfl, i, stage, there, unknown⟩ := orphaned_of_obtained sound allowed obtained
  obtain ⟨_, operation, same, thereToo, home, _⟩ := reports_obtained obtained
  cases same
  cases there.symm.trans thereToo
  cases inside : v.leg.isHome with
  | false =>
    have lodged := lodges.lodged arrival here inside
    have forgot := lodged.others i (sound.crew.placed id _ there) home unknown
    exact ⟨id, lodged.past.orphaned forgot there⟩
  | true =>
    have parted : v.leg.hasParted = true := by
      cases leg : v.leg with
      | home parted =>
        cases parted with
        | true => rfl
        | false => exact absurd leg away
      | outside | idle | on | parted =>
        rw [leg] at inside
        cases inside
    obtain ⟨_, hereToo, still⟩ := rested parted
    cases here.symm.trans hereToo
    rcases still.detached i home with detached | forgot
    · obtain ⟨_, thereToo, expects⟩ := allowed
      cases there.symm.trans thereToo
      have busy : (Operation.reattach i stage).isBusy = true := by
        cases stage <;> first | rfl | cases expects
      cases detached.symm.trans (sound.phases.reattaching id i stage there busy)
    · exact ⟨id, still.past.orphaned forgot there⟩

/-- A run that has come home stays so. -/
theorem Takes.away (takes : v.Takes orderly target move arrival activity news)
    (resides : Resides settings target detach v)
    (away : (Visit.mk (v.point.after move) arrival activity (v.exchanged ++ news)).leg ≠
      .home false) : v.leg ≠ .home false := by
  rcases takes.answered resides.stands with rfl | ⟨request, next, answer, asks, managed, rfl⟩
  · rwa [leg_unheard] at away
  · intro home
    have inside := Leg.isHome_of_may (resides.talks.may asks) managed
    rw [home] at inside
    cases inside

/-- What has been recorded of sessions while a run is on the target. -/
structure Recorded (start : Point) (target : String) (v : Visit) : Prop where
  before : Follows start v.lined
  later : Follows v.lined v.point
  /-- The run knows of its session what is recorded. -/
  shown : ∀ keep handle gone, v.leg = .on keep handle gone → Shown v.point handle.sessionId gone
  /-- Nobody has given up an attempt to attach. -/
  kept : ∀ session, .obtained session target true ∈ v.point.log →
    .dropped session ∈ since session v.point.log → .obtained session target true ∈ start.log
  /-- Who has obtained a session for a slot that had been forgotten was there when the run lined
  up. -/
  strays : v.leg ≠ .home false → ∀ session, .obtained session target false ∈ v.point.log →
    .obtained session target false ∈ v.lined.log ∨ ∃ id, v.lined.manager.Orphaned id

namespace Recorded

theorem begun (program : Script) (overrides : Variables) (options : RunOptions) :
    Recorded start target (Visit.begun settings program overrides options start) where
  before := .refl
  later := .refl
  shown _ _ _ on := by cases on
  kept _ obtained _ := obtained
  strays _ _ obtained := .inl obtained

theorem follows (recorded : Recorded start target v) : Follows start v.point :=
  recorded.before.trans recorded.later

/-- The surroundings keep to what they are to keep to, and the run recovers only when it has seen
its session fail. -/
theorem fits (recorded : Recorded start target v) (tidy : orderly)
    (talks : Talks target detach v) (takes : v.Takes orderly target move arrival activity news)
    (allowed : v.point.manager.Allows move)
    (fresh : ∀ id session, move = .resume id (.attached (.ok session)) →
      v.point.log.any (Report.obtains session) = false) : v.point.Fits move := by
  refine ⟨allowed, fresh, ?_⟩
  cases takes with
  | others _ lost => exact lost tidy
  | @begins request _ _ _ _ _ _ asks begins =>
    rintro stale rfl
    cases request with
    | recover handle =>
      cases begins
      obtain ⟨keep, on⟩ := Leg.may_recover (talks.may (.inl asks))
      exact (recorded.shown keep stale true on).2 rfl
    | _ => cases begins
  | acquires | proceeds | releases => exact nofun

/-- The run has not lined up with what happens next. -/
theorem onward (recorded : Recorded start target v) (onward : Follows v.point after.point)
    (same : after.arrival = v.arrival)
    (shown : ∀ keep handle gone, after.leg = .on keep handle gone →
      Shown after.point handle.sessionId gone)
    (kept : ∀ session, .obtained session target true ∈ after.point.log →
      .dropped session ∈ since session after.point.log →
        .obtained session target true ∈ v.point.log ∧ .dropped session ∈ since session v.point.log)
    (strays : after.leg ≠ .home false → v.leg ≠ .home false ∧
      ∀ session, .obtained session target false ∈ after.point.log →
        .obtained session target false ∈ v.point.log ∨
          ∀ arrival, v.arrival = some arrival → ∃ id, arrival.point.manager.Orphaned id) :
    Recorded start target after := by
  obtain ⟨before, later, _, keptBefore, straysBefore⟩ := recorded
  have keptToo : ∀ session, .obtained session target true ∈ after.point.log →
      .dropped session ∈ since session after.point.log →
        .obtained session target true ∈ start.log := fun session obtained dropped =>
    keptBefore session (kept session obtained dropped).1 (kept session obtained dropped).2
  cases here : v.arrival with
  | none =>
    have lined : v.lined = v.point := by rw [Visit.lined, here]; rfl
    have linedToo : after.lined = after.point := by rw [Visit.lined, same, here]; rfl
    rw [lined] at before
    refine ⟨?_, ?_, shown, keptToo, fun _ session obtained => .inl ?_⟩
    · exact linedToo ▸ before.trans onward
    · exact linedToo ▸ .refl
    · exact linedToo ▸ obtained
  | some arrival =>
    have lined : v.lined = arrival.point := by rw [Visit.lined, here]; rfl
    have linedToo : after.lined = arrival.point := by rw [Visit.lined, same, here]; rfl
    rw [lined] at before later straysBefore
    refine ⟨linedToo ▸ before, linedToo ▸ later.trans onward, shown, keptToo, ?_⟩
    rw [linedToo]
    intro away session obtained
    obtain ⟨awayBefore, old⟩ := strays away
    rcases old session obtained with there | orphaned
    · exact straysBefore awayBefore session there
    · exact .inr (orphaned arrival here)

/-- What is reported of sessions stays the same, or a session has been seen to fail. -/
theorem quiet (recorded : Recorded start target v) (heard : List Report)
    (fails : heard = [] ∨ ∃ lost, heard = [.failed lost])
    (point : after.point = { v.point with log := heard ++ v.point.log })
    (same : after.arrival = v.arrival) (away : after.leg ≠ .home false → v.leg ≠ .home false)
    (shown : ∀ keep handle gone, after.leg = .on keep handle gone →
      Shown after.point handle.sessionId gone) : Recorded start target after := by
  rcases fails with rfl | ⟨lost, rfl⟩
  · have unmoved : after.point = v.point := point
    exact recorded.onward (unmoved ▸ .refl) same shown
      (fun _ obtained dropped => ⟨unmoved ▸ obtained, unmoved ▸ dropped⟩)
      fun stays => ⟨away stays, fun _ obtained => .inl (unmoved ▸ obtained)⟩
  · refine recorded.onward (point ▸ .single (.fails v.point lost)) same shown
      (fun session obtained dropped => ?_) fun stays => ⟨away stays, fun session obtained => ?_⟩
    · rw [point] at obtained dropped
      have sinceToo := @since_failed session v.point.log lost
      exact ⟨by simpa using obtained, by simpa [sinceToo] using dropped⟩
    · rw [point] at obtained
      exact .inl (by simpa using obtained)

section Move

variable (recorded : Recorded start target v) (chronicled : Chronicled v.point)
  (resides : Resides settings target detach v)
  (takes : v.Takes orderly target move arrival activity news) (fits : v.point.Fits move)
include chronicled resides takes fits

include recorded in
theorem shown_moved {keep gone : Bool}
    (on : (Visit.mk (v.point.after move) arrival activity (v.exchanged ++ news)).leg =
      .on keep handle gone) : Shown (v.point.after move) handle.sessionId gone := by
  have moves : v.point.Step (v.point.after move) := .move v.point move fits
  rcases takes.answered resides.stands with rfl | ⟨request, next, answer, asks, managed, rfl⟩
  · rw [leg_unheard] at on
    exact (recorded.shown keep handle gone on).step moves
  · rw [leg_answered] at on
    rcases Leg.next_on managed on with before | ⟨given, rfl⟩
    · exact (recorded.shown keep handle gone before).step moves
    · have member : handle ∈ [⟨request, answer⟩].filterMap Run.given? :=
        List.mem_filterMap.mpr ⟨_, List.mem_singleton_self _, given⟩
      obtain ⟨i, attached⟩ := takes.given resides.stands fits.allowed member
      exact .of_attached (chronicled.moved fits) attached

theorem kept_moved (obtained : .obtained session target true ∈ (v.point.after move).log)
    (dropped : .dropped session ∈ since session (v.point.after move).log) :
    .obtained session target true ∈ v.point.log ∧
      .dropped session ∈ since session v.point.log := by
  rcases List.mem_append.mp obtained with new | old
  · obtain ⟨_, _, reports⟩ := (chronicled.turnover fits).obtained new
    rw [Point.after, reports, List.singleton_append, since_obtained] at dropped
    cases dropped
  · rw [fits.since_after old] at dropped
    refine ⟨old, (List.mem_append.mp dropped).resolve_left ?_⟩
    exact takes.undropped chronicled resides.stands old

include recorded in
theorem moved :
    Recorded start target ⟨v.point.after move, arrival, activity, v.exchanged ++ news⟩ := by
  have moves : v.point.Step (v.point.after move) := .move v.point move fits
  have shown : ∀ keep handle gone,
      (Visit.mk (v.point.after move) arrival activity (v.exchanged ++ news)).leg =
        .on keep handle gone → Shown (v.point.after move) handle.sessionId gone :=
    fun _ _ _ => recorded.shown_moved chronicled resides takes fits
  have kept : ∀ session, .obtained session target true ∈ (v.point.after move).log →
      .dropped session ∈ since session (v.point.after move).log →
        .obtained session target true ∈ v.point.log ∧
          .dropped session ∈ since session v.point.log :=
    fun _ => kept_moved chronicled resides takes fits
  by_cases same : arrival = v.arrival
  · refine recorded.onward (.single moves) same shown kept fun stays => ?_
    have away := takes.away resides stays
    refine ⟨away, fun session obtained => ?_⟩
    rcases List.mem_append.mp obtained with new | old
    · exact .inr fun _ here => resides.orphaned here away fits.allowed new
    · exact .inl old
  · cases takes with
    | acquires =>
      -- The run lines up with this move, so nothing has been reported since.
      refine ⟨recorded.follows.tail moves, .refl, shown, fun session obtained dropped => ?_,
        fun _ session obtained => .inl obtained⟩
      obtain ⟨old, droppedBefore⟩ := kept session obtained dropped
      exact recorded.kept session old droppedBefore
    | others | begins | proceeds | releases => exact absurd rfl same

end Move

theorem step (recorded : Recorded start target v) (tidy : orderly)
    (history : Follows (.start settings) start) (resides : Resides settings target detach v)
    (step : v.Step orderly target after) : Recorded start target after := by
  have chronicled := Follows.chronicled (history.trans recorded.follows)
  cases step with
  | wait time =>
    refine recorded.onward (.single (.wait v.point time)) rfl (fun keep handle gone on => ?_)
      (fun _ obtained dropped => ⟨obtained, dropped⟩) fun stays => ⟨stays, fun _ => .inl⟩
    exact (recorded.shown keep handle gone on).step (.wait v.point time)
  | fails lost =>
    refine recorded.quiet [.failed lost] (.inr ⟨lost, rfl⟩) rfl rfl id fun keep handle gone on => ?_
    exact (recorded.shown keep handle gone on).step (.fails v.point lost)
  | answered request asks free answer =>
    refine recorded.quiet [] (.inl rfl) rfl rfl (fun stays => ?_) fun keep handle gone on => ?_
    · rwa [leg_answered, Leg.next_free free] at stays
    · rw [leg_answered, Leg.next_free free] at on
      exact recorded.shown keep handle gone on
  | pages asks answer =>
    obtain ⟨keep, handle, gone, on, rfl⟩ := Leg.may_page (resides.talks.may (.inl asks))
    refine recorded.quiet _ ?_ rfl rfl (fun _ home => by cases on.symm.trans home) ?_
    · cases Run.isGone answer with
      | false => exact .inl rfl
      | true => exact .inr ⟨_, rfl⟩
    · intro keepToo other goneToo onToo
      rw [leg_answered, on] at onToo
      cases onToo
      exact (recorded.shown keep handle gone on).fails (Run.isGone answer)
  | moves move takes allowed fresh =>
    have fits := recorded.fits tidy resides.talks takes allowed (fresh tidy)
    exact recorded.moved chronicled resides takes fits

end Recorded

end Visit

theorem Visits.recorded {options : RunOptions} {program : Script} {overrides : Variables}
    (tidy : orderly) (history : Follows (.start settings) start)
    (reaches : Reaches settings start.now start.manager)
    (unwanted : start.manager.Unwanted options.target)
    (visits : Visits orderly options.target (.begun settings program overrides options start) v) :
    v.Recorded start options.target := by
  induction visits with
  | refl => exact .begun program overrides options
  | tail before step induction =>
    exact induction.step tidy history (Visits.resides reaches unwanted before) step

theorem Visits.step {before : Visit} (visits : Visits orderly target before v)
    (step : v.Step orderly target after) : Visits orderly target before after :=
  Relation.ReflTransGen.tail visits step

/-! ## When the run has ended -/

/-- The session has been given up, or it is known to be gone. -/
inductive Ceded (p : Point) (session target : String) : Prop
  | released (told : .released session ∈ since session p.log)
  | gone (heard : .failed session ∈ since session p.log ∨
      .detached target session ∈ since session p.log ∨ .closed target ∈ since session p.log)

/-- Nobody waits for the page of a session of a target that stands still, unless an orphan has
obtained it. -/
theorem Still.unawaited {p : Point} {early : Manager} {i : SlotId}
    (still : Still early target p.manager) (chronicled : Chronicled p)
    (obtained : .obtained session target true ∈ p.log) :
    p.manager.waiting? id ≠ some (i, session) := by
  intro waits
  have sound := chronicled.sound
  have traced := chronicled.traced i session (.inr ⟨id, waits⟩)
  obtain ⟨home, known⟩ := chronicled.unique _ _ _ _ _ traced obtained
  obtain ⟨operation, here, inSlot, busy⟩ := waiting?_eq_some waits
  cases operation with
  | ensure j stage =>
    obtain rfl : j = i := inSlot
    exact still.unwanted id j stage here home
  | reattach j stage =>
    obtain rfl : j = i := inSlot
    rcases still.detached j home with detached | forgot
    · cases detached.symm.trans (sound.phases.reattaching id j stage here busy)
    · cases known.symm.trans (still.past.slots j forgot).2
  | detach | acquire | recover =>
    rw [waiting?, here] at waits
    cases waits

/-- What holds when a run that is to detach has ended. If the surroundings have been orderly, it is
known what has become of the sessions that were obtained meanwhile. -/
structure LeavesDetached (orderly : Prop) (settings : Settings) (start : Point) (target : String)
    (v : Visit) : Prop where
  /-- The target is detached until somebody wants a session of it again. -/
  detached : ∀ later m, Rests target v.point.now v.point.manager later m →
    m.stateOf target = .detached
  /-- Who asks the browser to attach to the target until then replaces a session of a slot that had
  been forgotten when the run lined up for its lease. -/
  unasked : ∀ later m move id, Rests target v.point.now v.point.manager later m → m.Allows move →
    move ≠ .ensure target → (m.move later move).2 = some (id, .attach target) →
      v.lined.manager.Orphaned id
  /-- A session that was obtained while the run was on the target has been given up or is gone,
  unless it was obtained for a slot that had been forgotten. -/
  ceded : orderly → ∀ session home, .obtained session target home ∈ v.point.log →
    .obtained session target home ∈ start.log ∨ Ceded v.point session target ∨
      home = false ∧ FromOrphan settings v.point session ∧
        (.obtained session target false ∈ v.lined.log ∨ ∃ id, v.lined.manager.Orphaned id)

/-- A run that is to detach has done so when it ends. -/
theorem Visit.Resides.parted {result : RunResult} (resides : v.Resides settings target detach)
    (done : v.activity = .goes (.done result))
    (leaves : detach = true ∨
      settings.keepAlive = false ∧ Run.attachments v.exchanged ≠ []) : v.leg = .home true := by
  have home : v.leg.isHome = true := resides.talks.goes _ done
  have fits := resides.talks.fits
  cases leg : v.leg with
  | home parted =>
    cases parted with
    | true => rfl
    | false =>
      rw [leg] at fits
      rcases leaves with asked | ⟨brief, attached⟩
      · cases asked.symm.trans fits.1
      · obtain ⟨handle, member⟩ := List.exists_mem_of_ne_nil _ attached
        cases (fits.2 handle member).symm.trans ((resides.stands.kept handle member).trans brief)
  | outside | idle | on | parted =>
    rw [leg] at home
    cases home

/-- The target has closed before a reattachment to it has lined up. -/
def Point.deserted : Point :=
  (((attached.after (.acquire "T1")).after (.notice (.detached "T1" "S1" "closed"))).after
    (.release 1)).after (.notice (.targetClosed "T1"))

theorem Point.deserted_follows : Follows (.start {}) deserted :=
  have leased := attached_follows.move (.acquire "T1") ⟨trivial, nofun, nofun⟩
  have lost := leased.move (.notice (.detached "T1" "S1" "closed")) ⟨trivial, nofun, nofun⟩
  have released := lost.move (.release 1) ⟨trivial, nofun, nofun⟩
  -- Nobody seems to use the slot.
  released.move (.notice (.targetClosed "T1")) ⟨trivial, nofun, nofun⟩

end BrowserScript.Session

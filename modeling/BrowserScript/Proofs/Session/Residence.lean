import BrowserScript.Proofs.Session.Visit

/-!
# While a run is on its target

From when a run has lined up for its lease until it gives it back, the target keeps its slot. When
the run has detached, the target stands still. Main definitions: `Visit.Lodges`, `Visit.Rested`,
`Visit.Resides`. Main results: `Visit.Lodges.step`, `Visit.Rested.step`, `Session.Visits.resides`.
-/

set_option autoImplicit false

namespace BrowserScript.Session

open Manager
open Run (Leg Request)

variable {settings : Settings} {orderly : Prop} {target : String} {detach : Bool}
  {v after : Visit} {start : Point} {id : OperationId} {request : Request}
  {next : request.Answer → RunProgram RunResult} {wait : Wait} {move : Move}
  {arrival : Option Arrival} {activity : Activity} {news : Run.Log}

namespace Visit

/-! ## While the run has its lease -/

/-- A run lodges with its lease from when it has lined up for it until it gives it back. -/
structure Lodges (target : String) (v : Visit) : Prop where
  outside : v.arrival = none →
    v.leg = .outside ∧ ∀ id request next, v.activity ≠ .waits id request next
  lodged : ∀ arrival, v.arrival = some arrival → v.leg.isHome = false →
    Lodged arrival.point.manager target arrival.lease v.point.manager

/-- Unless it has yet to get its lease, a run that asks about its target has lined up. -/
theorem Lodges.here (lodges : Lodges target v) (inside : v.leg ≠ .outside) :
    ∃ arrival, v.arrival = some arrival := by
  cases here : v.arrival with
  | none => exact absurd (lodges.outside here).1 inside
  | some arrival => exact ⟨arrival, rfl⟩

theorem leg_answered (point : Point) (arrival : Option Arrival) (activity : Activity)
    (answer : request.Answer) :
    (Visit.mk point arrival activity (v.exchanged ++ [⟨request, answer⟩])).leg =
      v.leg.next request answer := Leg.along_append _ _ _

theorem leg_unheard (point : Point) (arrival : Option Arrival) (activity : Activity) :
    (Visit.mk point arrival activity (v.exchanged ++ [])).leg = v.leg := by
  rw [List.append_nil]
  rfl

/-- With a move a run is answered at most once. -/
theorem Takes.answered (takes : v.Takes orderly target move arrival activity news)
    (stands : Stands settings target v) :
    news = [] ∨ ∃ request next answer, v.Asks request next ∧ request.isManaged = true ∧
      news = [⟨request, answer⟩] := by
  cases takes with
  | others => exact .inl rfl
  | acquires asks hears =>
    cases hears with
    | ends => exact .inr ⟨.acquire _, _, _, .inl asks, rfl, rfl⟩
    | more => exact .inl rfl
  | @begins request _ _ _ _ _ _ asks begins told hears =>
    cases hears with
    | ends => exact .inr ⟨_, _, _, .inl asks, managed_of_begins begins, rfl⟩
    | more => exact .inl rfl
  | proceeds waits hears =>
    cases hears with
    | ends => exact .inr ⟨_, _, _, .inr ⟨_, waits⟩, (stands.pursues _ _ _ waits).managed, rfl⟩
    | more => exact .inl rfl
  | releases asks => exact .inr ⟨.release _, _, _, .inl asks, rfl, rfl⟩

theorem Lodges.step (lodges : Lodges target v) (stands : Stands settings target v)
    (talks : Talks target detach v) (step : v.Step orderly target after) :
    Lodges target after := by
  have sound := stands.reaches.sound
  cases step with
  | wait | fails => exact ⟨lodges.outside, lodges.lodged⟩
  | answered request asks free answer =>
    refine ⟨fun none => ⟨?_, nofun⟩, fun arrival here inside => ?_⟩
    · rw [leg_answered, Leg.next_free free]
      exact (lodges.outside none).1
    · rw [leg_answered, Leg.next_free free] at inside
      exact lodges.lodged arrival here inside
  | pages asks answer =>
    obtain ⟨keep, handle, gone, on, _⟩ := Leg.may_page (talks.may (.inl asks))
    refine ⟨fun none => ?_, fun arrival here _ => lodges.lodged arrival here (by rw [on]; rfl)⟩
    cases on.symm.trans (lodges.outside none).1
  | moves move takes allowed =>
    cases takes with
    | others foreign =>
      refine ⟨fun none => ?_, fun arrival here inside => ?_⟩
      · rw [leg_unheard]
        exact lodges.outside none
      · rw [leg_unheard] at inside
        have owns : v.Owns arrival.lease := .inl ⟨arrival, here, rfl⟩
        refine (lodges.lodged arrival here inside).moved v.point.now sound allowed ?_ ?_
        · rintro rfl
          exact foreign.apart _ rfl owns
        · rintro rfl
          exact foreign.apart _ rfl owns
    | acquires asks hears =>
      obtain ⟨_, rfl⟩ := Leg.may_acquire (talks.may (.inl asks))
      refine ⟨nofun, fun arrival here _ => ?_⟩
      cases here
      exact Lodged.acquire sound _
    | @begins request _ _ _ _ _ _ asks begins told hears =>
      have may := talks.may (.inl asks)
      refine ⟨fun none => ?_, fun arrival here _ => ?_⟩
      · rw [(lodges.outside none).1] at may
        cases Leg.may_outside may (managed_of_begins begins)
        cases begins
      · have inside := Leg.isHome_of_may may (managed_of_begins begins)
        refine (lodges.lodged arrival here inside).moved v.point.now sound allowed ?_ ?_
        · rintro rfl
          cases request <;> cases begins
        · rintro rfl
          cases request <;> cases begins
    | proceeds waits hears =>
      refine ⟨fun none => absurd waits ((lodges.outside none).2 _ _ _), fun arrival here _ => ?_⟩
      have inside := Leg.isHome_of_may (talks.may (.inr ⟨_, waits⟩))
        (stands.pursues _ _ _ waits).managed
      exact (lodges.lodged arrival here inside).moved v.point.now sound allowed nofun nofun
    | releases asks here =>
      refine ⟨fun none => (by cases here.symm.trans none), fun _ _ inside => ?_⟩
      rw [leg_answered] at inside
      cases inside

/-! ## When the run has detached -/

/-- Once the run has detached, the target stands still. -/
def Rested (target : String) (v : Visit) : Prop :=
  v.leg.hasParted = true → ∃ arrival, v.arrival = some arrival ∧
    Still arrival.point.manager target v.point.manager

/-- The run has detached when it is told so. -/
theorem Takes.dismisses {other : String} {answer : Except PageError Unit}
    (takes : v.Takes orderly target move arrival activity news) (stands : Stands settings target v)
    (allowed : v.point.manager.Allows move) (parts : news = [⟨.detach other, answer⟩]) :
    v.point.manager.Dismisses v.point.now other move ∧ arrival = v.arrival ∧
      (∀ id, move ≠ .release id ∧ move ≠ .abandon id) ∧ ∃ rest, activity = .goes rest := by
  cases takes with
  | others | releases => cases parts
  | acquires _ hears =>
    cases hears with
    | ends | more => cases parts
  | begins asks begins told hears =>
    cases hears with
    | ends last answers =>
      cases parts
      cases answers
      cases begins
      subst last
      exact ⟨.atOnce (Option.some.inj told), rfl, fun _ => ⟨nofun, nofun⟩, _, rfl⟩
    | more => cases parts
  | proceeds waits hears =>
    cases hears with
    | ends last answers =>
      cases parts
      cases answers
      obtain ⟨operation, here, _⟩ := allowed
      obtain ⟨i, stage, rfl, home⟩ := (stands.pursues _ _ _ waits).waits operation here
      exact ⟨.inTheEnd here home last, rfl, fun _ => ⟨nofun, nofun⟩, _, rfl⟩
    | more => cases parts

/-- Nobody wants a session of the target when the run has detached. -/
theorem Takes.rests (takes : v.Takes orderly target move arrival activity news)
    (talks : Talks target detach v) (parted : v.leg.hasParted = true) :
    arrival = v.arrival ∧ move ≠ .ensure target := by
  cases takes with
  | others foreign => exact ⟨rfl, foreign.unwanted⟩
  | acquires asks =>
    obtain ⟨outside, _⟩ := Leg.may_acquire (talks.may (.inl asks))
    rw [outside] at parted
    cases parted
  | @begins request _ _ _ _ _ _ asks begins =>
    refine ⟨rfl, ?_⟩
    rintro rfl
    cases request with
    | attach =>
      obtain ⟨idle, _⟩ := Leg.may_attach (talks.may (.inl asks))
      rw [idle] at parted
      cases parted
    | _ => cases begins
  | proceeds | releases => exact ⟨rfl, nofun⟩

/-- When the run is told that it has detached, the target stands still. -/
theorem Takes.still {other : String} {answer : Request.Answer (.detach other)}
    {next : Request.Answer (.detach other) → RunProgram RunResult}
    (takes : v.Takes orderly target move arrival activity [⟨.detach other, answer⟩])
    (asks : v.Asks (.detach other) next) (lodges : Lodges target v)
    (stands : Stands settings target v) (talks : Talks target detach v)
    (allowed : v.point.manager.Allows move)
    (standsToo : Stands settings target
      ⟨v.point.after move, arrival, activity, v.exchanged ++ [⟨.detach other, answer⟩]⟩) :
    ∃ early, arrival = some early ∧
      Still early.point.manager target (v.point.after move).manager := by
  have sound := stands.reaches.sound
  have soundToo := standsToo.reaches.sound
  obtain ⟨inside, rfl⟩ := Leg.may_detach (talks.may asks)
  have within : v.leg ≠ .outside ∧ v.leg.isHome = false := by
    cases leg : v.leg with
    | outside | home =>
      rw [leg] at inside
      cases inside
    | idle | on | parted => exact ⟨nofun, rfl⟩
  obtain ⟨early, here⟩ := lodges.here within.1
  obtain ⟨dismisses, rfl, keeps, rest, goes⟩ := takes.dismisses stands allowed rfl
  have detached := dismisses.stateOf sound stands.reaches.cleared soundToo
  have unwanted := standsToo.unwanted fun id next waits => by cases goes.symm.trans waits
  obtain ⟨returns, leaves⟩ := keeps early.lease
  have lodged := lodges.lodged early here within.2
  have lodgedToo := lodged.moved v.point.now sound allowed returns leaves
  exact ⟨early, here, lodgedToo.still soundToo unwanted detached⟩

theorem Rested.step (rested : Rested target v) (lodges : Lodges target v)
    (stands : Stands settings target v) (talks : Talks target detach v)
    (step : v.Step orderly target after) : Rested target after := by
  have sound := stands.reaches.sound
  have standsToo := stands.step step
  intro parted
  cases step with
  | wait | fails => exact rested parted
  | answered request asks free answer =>
    rw [leg_answered, Leg.next_free free] at parted
    exact rested parted
  | pages asks answer =>
    rw [leg_answered] at parted
    rcases Leg.hasParted_next parted with before | ⟨_, same⟩
    · exact rested before
    · cases same
  | moves move takes allowed =>
    by_cases before : v.leg.hasParted = true
    · obtain ⟨rfl, other⟩ := takes.rests talks before
      obtain ⟨arrival, here, still⟩ := rested before
      exact ⟨arrival, here, still.moved sound allowed other⟩
    · rcases takes.answered stands with rfl | ⟨request, next, answer, asks, _, rfl⟩
      · rw [leg_unheard] at parted
        exact absurd parted before
      · rw [leg_answered] at parted
        obtain ⟨other, rfl⟩ := (Leg.hasParted_next parted).resolve_left before
        exact takes.still asks lodges stands talks allowed standsToo

/-! ## Both together -/

/-- What holds of a run on its target at all times. -/
structure Resides (settings : Settings) (target : String) (detach : Bool) (v : Visit) : Prop where
  talks : Talks target detach v
  stands : Stands settings target v
  lodges : Lodges target v
  rested : Rested target v

theorem Resides.begun (program : Script) (overrides : Variables) (options : RunOptions)
    (reaches : Reaches settings start.now start.manager)
    (unwanted : start.manager.Unwanted options.target) :
    Resides settings options.target options.detach
      (Visit.begun settings program overrides options start) where
  talks := .begun settings program overrides options start
  stands := .begun program overrides options reaches unwanted
  lodges := ⟨fun _ => ⟨rfl, nofun⟩, nofun⟩
  rested parted := by cases parted

theorem Resides.step (resides : Resides settings target detach v)
    (step : v.Step orderly target after) : Resides settings target detach after := by
  obtain ⟨talks, stands, lodges, rested⟩ := resides
  exact ⟨talks.step step, stands.step step, lodges.step stands talks step,
    rested.step lodges stands talks step⟩

end Visit

theorem Visits.resides {options : RunOptions} {program : Script} {overrides : Variables}
    (reaches : Reaches settings start.now start.manager)
    (unwanted : start.manager.Unwanted options.target)
    (visits : Visits orderly options.target (.begun settings program overrides options start) v) :
    v.Resides settings options.target options.detach := by
  induction visits with
  | refl => exact .begun program overrides options reaches unwanted
  | tail _ step induction => exact induction.step step

end BrowserScript.Session

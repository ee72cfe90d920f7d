import BrowserScript.Proofs.Run.Waits
import BrowserScript.Proofs.Session.Generations
import BrowserScript.Proofs.Session.Lifecycle

/-!
# Waiting for a page to be ready

An attempt to attach asks the page of its new session at even intervals whether it is ready. It
looks past errors of the evaluation, fails at any other error, and takes the page as it is when the
time is up, whatever others do meanwhile. With that all polling keeps to its schedule. Main
definitions: `Session.ready?`, `Session.Vigil`, `Session.Vigil.Keeps`. Main results:
`Session.Vigil.Keeps.run`, `Session.Vigil.Keeps.canEnd`, `polling_on_schedule`.
-/

set_option autoImplicit false

namespace BrowserScript

namespace Session

open Manager

variable {settings : Settings} {m after : Manager} {deed : Deed} {now started : Nat}
  {id : OperationId} {move : Move} {operation : Operation}

/-! ## What an answer says of a page -/

/-- What the answer to a probe decides: a page that is ready is taken, an error of the evaluation
may pass, and any other error does not. -/
def ready? : Except PageError Json → Option (Except PageError Unit)
  | .ok value => if Page.isReady value then some (.ok ()) else none
  | .error (.evaluation _) => none
  | .error error => some (.error error)

theorem readiness_eq (answer : Except PageError Json) :
    readiness answer =
      match ready? answer with
      | none => .notYet
      | some (.ok ()) => .ready
      | some (.error error) => if error.isDetach then .gone error else .unusable error := by
  cases answer with
  | ok value =>
    simp only [readiness, ready?]
    cases Page.isReady value <;> rfl
  | error error => cases error <;> rfl

/-! ## What stays while others move -/

/-- The manager has the settings that it was made with. -/
structure Manager.Configured (settings : Settings) (m : Manager) : Prop where
  limits : m.settings = settings.session
  interval : m.interval = settings.pollInterval

theorem Does.configured (does : Does m deed after) (configured : m.Configured settings) :
    after.Configured settings := by
  obtain ⟨limits, interval, _⟩ := does.configuration
  exact ⟨limits.trans configured.limits, interval.trans configured.interval⟩

theorem Reaches.configured (reaches : Reaches settings now m) : m.Configured settings := by
  induction reaches with
  | start => exact ⟨rfl, rfl⟩
  | wait _ _ induction => exact induction
  | move move reaches allowed induction =>
    obtain ⟨_, effect, _⟩ := move_effect _ reaches.sound allowed
    obtain ⟨_, done⟩ := effect.acts.deeds
    exact done.invariant (fun _ _ _ does => does.configured) induction

/-- An attempt stands where it is while others move. -/
theorem move_keeps (now : Nat) (sound : Sound m) (allowed : m.Allows move)
    (here : m.operation? id = some operation) (attempts : operation.isAttempting = true)
    (others : ∀ input, move ≠ .resume id input) (kept : move ≠ .abandon id) :
    (m.move now move).1.operation? id = some operation := by
  by_cases patient : move.isPatient = true
  · refine (move_affects now sound allowed patient).kept sound here ?_ others
    rintro i rfl
    cases attempts
  · cases move with
    | abandon other =>
      have apart : id ≠ other := fun same => kept (same ▸ rfl)
      simp only [Manager.move, abandon]
      split <;> grind
    | _ => exact absurd rfl patient

/-! ## Vigils -/

/-- An attempt to attach, the session that the browser has given it, and how its probes are answered
one after the other. -/
structure Vigil where
  purpose : Purpose
  slot : SlotId
  id : OperationId
  session : String
  answers : Nat → Except PageError Json

namespace Vigil

/-- A moment of a vigil: when the page has been asked so far, and what the attempt waits for. -/
structure Moment where
  now : Nat
  manager : Manager
  asked : List Nat
  told : Wait

/-- The page has been asked, or the next time to ask it has not come. -/
def Moment.isOpen (t : Moment) : Bool :=
  match t.told with
  | .probe _ | .time _ => true
  | _ => false

/-- When the page has been asked, if this is waited for from now on. -/
def noted (asked : List Nat) (now : Nat) : Wait → List Nat
  | .probe _ => asked ++ [now]
  | _ => asked

/-- The attempt goes on with what it is given. -/
def proceed (v : Vigil) (t : Moment) (input : Input) : Moment :=
  let next := t.manager.resume t.now v.id input
  ⟨t.now, next.1, noted t.asked t.now next.2, next.2⟩

/-- The vigil begins when the browser has attached. -/
def opened (v : Vigil) (now : Nat) (m : Manager) : Moment :=
  v.proceed ⟨now, m, [], .turn⟩ (.attached (.ok v.session))

/-- What can happen next, as long as the vigil lasts and nobody gives the attempt up. A probe is
answered at once and a pause ends on time, whatever else is done meanwhile. -/
inductive Step (v : Vigil) : Moment → Moment → Prop
  /-- The latest probe has its answer. -/
  | answered {t : Moment} {session : String} (asks : t.told = .probe session) :
      Step v t (v.proceed t (.probed (v.answers (t.asked.length - 1))))
  | passes {t : Moment} {due : Nat} (time : Nat) (pauses : t.told = .time due)
      (within : t.now + time ≤ due) : Step v t { t with now := t.now + time }
  | wakes {t : Moment} (pauses : t.told = .time t.now) : Step v t (v.proceed t .turn)
  | elsewhere {t : Moment} (move : Move) (lasts : t.isOpen = true)
      (allowed : t.manager.Allows move) (others : ∀ input, move ≠ .resume v.id input)
      (kept : move ≠ .abandon v.id) :
      Step v t { t with manager := (t.manager.move t.now move).1 }

/-- What becomes of the session when the vigil is over. -/
inductive Settles (v : Vigil) (t : Moment) : Except PageError Unit → Prop
  /-- The session is kept. -/
  | keeps (handle : SessionHandle) (session : handle.sessionId = v.session)
      (state : (t.manager.slot v.slot).state = .attached handle)
      (told : t.told = .over (v.purpose.outcome (.ok handle))) : Settles v t (.ok ())
  /-- There is no session any more. -/
  | loses (error : PageError) (gone : error.isDetach = true)
      (state : (t.manager.slot v.slot).state = .detached)
      (told : t.told = .over (v.purpose.outcome (.error error))) : Settles v t (.error error)
  /-- The session is given up, and after that the attempt. -/
  | closes (error : PageError) (there : error.isDetach = false)
      (here : t.manager.operation? v.id =
        some (v.purpose.operation v.slot (.attempting (.closing v.session error))))
      (told : t.told = .close v.session) : Settles v t (.error error)

/-- How a vigil stands after the probe with a number, if the page is given this time. -/
inductive Stands (v : Vigil) (interval timeout started last : Nat) (t : Moment) : Prop
  | probes (time : t.now = started + last * interval) (told : t.told = .probe v.session)
      (here : t.manager.operation? v.id =
        some (v.purpose.operation v.slot (.attempting (.probing v.session (started + timeout)))))
      (within : last ≤ timeout ⌈/⌉ interval)
      (undecided : ∀ earlier < last, ready? (v.answers earlier) = none)
  | pauses (time : t.now ≤ started + (last + 1) * interval)
      (told : t.told = .time (started + (last + 1) * interval))
      (here : t.manager.operation? v.id =
        some (v.purpose.operation v.slot (.attempting (.pausing v.session (started + timeout)))))
      (within : last < timeout ⌈/⌉ interval)
      (undecided : ∀ earlier ≤ last, ready? (v.answers earlier) = none)
  | settled (result : Except PageError Unit) (time : t.now = started + last * interval)
      (polls : Polls ready? (.ok ()) (timeout ⌈/⌉ interval) v.answers last result)
      (settles : v.Settles t result)
      (late : last = timeout ⌈/⌉ interval →
        started + timeout ≤ t.now ∧ t.now < started + timeout + interval)

/-- The vigil can come to its end from here. -/
def CanEnd (v : Vigil) (t : Moment) : Prop :=
  ∃ u, Relation.ReflTransGen v.Step t u ∧ u.isOpen = false

/-! ## What the attempt does -/

variable {v : Vigil} {t u : Moment} {interval timeout last : Nat} {attempt : Attempt}

theorem proceed_attempting (input : Input)
    (here : t.manager.operation? v.id =
      some (v.purpose.operation v.slot (.attempting attempt))) :
    v.proceed t input =
      let next := t.manager.advance t.now v.purpose v.slot v.id attempt input
      ⟨t.now, next.1, noted t.asked t.now next.2, next.2⟩ := by
  unfold proceed
  rw [resume_attempting t.now input here]

theorem asked_proceed {input : Input} {session : String}
    (asks : (v.proceed t input).told = .probe session) :
    (v.proceed t input).asked = t.asked ++ [t.now] := by
  unfold proceed at asks ⊢
  simp only at asks ⊢
  rw [asks, noted]

theorem opened_stands (configured : m.Configured settings)
    (here : m.operation? v.id = some (v.purpose.operation v.slot (.attempting .opening))) :
    (v.opened started m).asked = [started] ∧
      v.Stands settings.pollInterval settings.session.readyTimeoutMs.toNat started 0
        (v.opened started m) := by
  have begun : v.opened started m =
      ⟨started, m.setOperation v.id (v.purpose.operation v.slot (.attempting
        (.probing v.session (started + settings.session.readyTimeoutMs.toNat)))), [started],
        .probe v.session⟩ := by
    unfold opened
    rw [proceed_attempting _ here, ← configured.limits]
    rfl
  rw [begun]
  refine ⟨rfl, .probes ?_ rfl (operation?_replaced _ here) (Nat.zero_le _) ?_⟩
  · rw [Nat.zero_mul]
    rfl
  · exact fun earlier less => absurd less (Nat.not_lt_zero earlier)

theorem succeed_settles (inside : v.slot < m.slots.length) (now : Nat) (asked : List Nat) :
    v.Settles ⟨now, (m.succeed v.purpose v.slot v.id v.session).1, asked,
      (m.succeed v.purpose v.slot v.id v.session).2⟩ (.ok ()) := by
  refine .keeps (m.granted v.slot v.session) rfl ?_ rfl
  rw [slot_succeed, if_pos ⟨rfl, inside⟩]

theorem conclude_settles (inside : v.slot < m.slots.length) (now : Nat) (asked : List Nat)
    {error : PageError} (gone : error.isDetach = true) :
    v.Settles ⟨now, (m.conclude v.purpose v.slot v.id (.error error)).1, asked,
      (m.conclude v.purpose v.slot v.id (.error error)).2⟩ (.error error) := by
  refine .loses error gone ?_ rfl
  rw [slot_conclude, if_pos ⟨rfl, inside⟩]
  rfl

/-- An answer ends the vigil, or there is a pause before the next probe. -/
theorem answered_stands (configured : t.manager.interval = interval) (positive : 0 < interval)
    (inside : v.slot < t.manager.slots.length) (time : t.now = started + last * interval)
    (here : t.manager.operation? v.id =
      some (v.purpose.operation v.slot (.attempting (.probing v.session (started + timeout)))))
    (within : last ≤ timeout ⌈/⌉ interval)
    (undecided : ∀ earlier < last, ready? (v.answers earlier) = none) :
    (v.proceed t (.probed (v.answers last))).asked = t.asked ∧
      v.Stands interval timeout started last (v.proceed t (.probed (v.answers last))) := by
  have bounds : last = timeout ⌈/⌉ interval →
      started + timeout ≤ t.now ∧ t.now < started + timeout + interval := by
    rintro rfl
    have bounds := ceilDiv_late timeout positive
    omega
  rw [proceed_attempting _ here]
  simp only [advance, readiness_eq]
  cases decides : ready? (v.answers last) with
  | some verdict =>
    have polls : Polls ready? (.ok ()) (timeout ⌈/⌉ interval) v.answers last verdict :=
      .decided within undecided decides
    cases verdict with
    | ok => exact ⟨rfl, .settled _ time polls (succeed_settles inside t.now t.asked) bounds⟩
    | error error =>
      by_cases gone : error.isDetach = true
      · simp only [if_pos gone]
        exact ⟨rfl, .settled _ time polls (conclude_settles inside t.now t.asked gone) bounds⟩
      · simp only [if_neg gone]
        refine ⟨rfl, .settled _ time polls (.closes error (Bool.eq_false_iff.mpr gone) ?_ rfl) bounds⟩
        exact operation?_replaced _ here
  | none =>
    have undecided : ∀ earlier ≤ last, ready? (v.answers earlier) = none := by
      intro earlier before
      rcases Nat.lt_or_eq_of_le before with less | rfl
      · exact undecided earlier less
      · exact decides
    by_cases late : started + timeout ≤ t.now
    · have whole : last = timeout ⌈/⌉ interval := by
        refine Nat.le_antisymm within (Nat.not_lt.mp fun less => ?_)
        have early := (ceilDiv_room positive).mp less
        omega
      subst whole
      simp only [if_pos late]
      exact ⟨rfl, .settled _ time (.late undecided) (succeed_settles inside t.now t.asked) bounds⟩
    · have more : last < timeout ⌈/⌉ interval := (ceilDiv_room positive).mpr (by omega)
      have due : t.now + t.manager.interval = started + (last + 1) * interval := by
        rw [configured, time, Nat.succ_mul, Nat.add_assoc]
      simp only [if_neg late]
      refine ⟨rfl, .pauses ?_ (congrArg Wait.time due) (operation?_replaced _ here) more undecided⟩
      exact due ▸ Nat.le_add_right _ _

/-- After a pause the page is asked again. -/
theorem woken_stands (time : t.now = started + (last + 1) * interval)
    (here : t.manager.operation? v.id =
      some (v.purpose.operation v.slot (.attempting (.pausing v.session (started + timeout)))))
    (within : last < timeout ⌈/⌉ interval)
    (undecided : ∀ earlier ≤ last, ready? (v.answers earlier) = none) :
    (v.proceed t .turn).asked = t.asked ++ [t.now] ∧
      v.Stands interval timeout started (last + 1) (v.proceed t .turn) := by
  rw [proceed_attempting _ here]
  refine ⟨rfl, .probes time rfl (operation?_replaced _ here) within fun earlier less => ?_⟩
  exact undecided earlier (Nat.le_of_lt_succ less)

/-! ## What holds all along -/

theorem Settles.ended {result : Except PageError Unit} (settles : v.Settles t result) :
    t.isOpen = false := by
  unfold Moment.isOpen
  cases settles with
  | keeps _ _ _ told | loses _ _ _ told | closes _ _ _ told => rw [told]

theorem Stands.of_probe (stands : v.Stands interval timeout started last t) {session : String}
    (asks : t.told = .probe session) :
    t.now = started + last * interval ∧
      t.manager.operation? v.id =
        some (v.purpose.operation v.slot (.attempting (.probing v.session (started + timeout)))) ∧
      last ≤ timeout ⌈/⌉ interval ∧ ∀ earlier < last, ready? (v.answers earlier) = none := by
  cases stands with
  | probes time _ here within undecided => exact ⟨time, here, within, undecided⟩
  | pauses _ told => cases asks.symm.trans told
  | settled _ _ _ settles _ =>
    cases settles with
    | keeps _ _ _ told | loses _ _ _ told | closes _ _ _ told => cases asks.symm.trans told

theorem Stands.of_pause (stands : v.Stands interval timeout started last t) {due : Nat}
    (pauses : t.told = .time due) :
    due = started + (last + 1) * interval ∧ t.now ≤ due ∧
      t.manager.operation? v.id =
        some (v.purpose.operation v.slot (.attempting (.pausing v.session (started + timeout)))) ∧
      last < timeout ⌈/⌉ interval ∧ ∀ earlier ≤ last, ready? (v.answers earlier) = none := by
  cases stands with
  | probes _ told => cases pauses.symm.trans told
  | pauses time told here more undecided =>
    cases pauses.symm.trans told
    exact ⟨rfl, time, here, more, undecided⟩
  | settled _ _ _ settles _ =>
    cases settles with
    | keeps _ _ _ told | loses _ _ _ told | closes _ _ _ told => cases pauses.symm.trans told

/-- The vigil has come to its probe with this number, on time. -/
structure Keeps (v : Vigil) (settings : Settings) (started last : Nat) (t : Moment) : Prop where
  reaches : Reaches settings t.now t.manager
  asked : t.asked = List.range' started (last + 1) settings.pollInterval
  stands : v.Stands settings.pollInterval settings.session.readyTimeoutMs.toNat started last t

namespace Keeps

theorem opened (reaches : Reaches settings started m)
    (here : m.operation? v.id = some (v.purpose.operation v.slot (.attempting .opening))) :
    v.Keeps settings started 0 (v.opened started m) := by
  obtain ⟨asked, stands⟩ := opened_stands reaches.configured here
  have allowed : m.Allows (.resume v.id (.attached (.ok v.session))) :=
    ⟨_, here, by simp [Operation.expects, Attempt.expects]⟩
  exact ⟨.move _ reaches allowed, asked, stands⟩

theorem answered (keeps : v.Keeps settings started last t) {session : String}
    (asks : t.told = .probe session) :
    v.Keeps settings started last (v.proceed t (.probed (v.answers (t.asked.length - 1)))) := by
  obtain ⟨reaches, asked, stands⟩ := keeps
  obtain ⟨time, here, within, undecided⟩ := stands.of_probe asks
  have number : t.asked.length - 1 = last := by
    rw [asked, List.length_range', Nat.add_sub_cancel]
  have inside : v.slot < t.manager.slots.length := by
    have placed := reaches.sound.crew.placed v.id _ here
    rwa [slot_operation] at placed
  have allowed : t.manager.Allows (.resume v.id (.probed (v.answers last))) :=
    ⟨_, here, by simp [Operation.expects, Attempt.expects]⟩
  obtain ⟨same, stands⟩ := answered_stands reaches.configured.interval
    (Run.pollInterval_pos settings) inside time here within undecided
  rw [number]
  exact ⟨.move _ reaches allowed, same.trans asked, stands⟩

theorem passes (keeps : v.Keeps settings started last t) {due time : Nat}
    (pauses : t.told = .time due) (within : t.now + time ≤ due) :
    v.Keeps settings started last { t with now := t.now + time } := by
  obtain ⟨reaches, asked, stands⟩ := keeps
  obtain ⟨rfl, _, here, more, undecided⟩ := stands.of_pause pauses
  exact ⟨.wait time reaches, asked, .pauses within pauses here more undecided⟩

theorem wakes (keeps : v.Keeps settings started last t) (pauses : t.told = .time t.now) :
    v.Keeps settings started (last + 1) (v.proceed t .turn) := by
  obtain ⟨reaches, asked, stands⟩ := keeps
  obtain ⟨due, _, here, more, undecided⟩ := stands.of_pause pauses
  obtain ⟨again, stands⟩ := woken_stands due here more undecided
  have allowed : t.manager.Allows (.resume v.id .turn) :=
    ⟨_, here, by simp [Operation.expects, Attempt.expects]⟩
  refine ⟨.move _ reaches allowed, ?_, stands⟩
  rw [again, asked, due, Nat.mul_comm]
  exact List.range'_concat.symm

/-- What others do does not concern the vigil. -/
theorem elsewhere (keeps : v.Keeps settings started last t) (lasts : t.isOpen = true)
    (allowed : t.manager.Allows move) (others : ∀ input, move ≠ .resume v.id input)
    (kept : move ≠ .abandon v.id) :
    v.Keeps settings started last { t with manager := (t.manager.move t.now move).1 } := by
  obtain ⟨reaches, asked, stands⟩ := keeps
  refine ⟨.move move reaches allowed, asked, ?_⟩
  have stays : ∀ attempt,
      t.manager.operation? v.id = some (v.purpose.operation v.slot (.attempting attempt)) →
        (t.manager.move t.now move).1.operation? v.id =
          some (v.purpose.operation v.slot (.attempting attempt)) :=
    fun attempt here => move_keeps t.now reaches.sound allowed here
      (by simp [Operation.isAttempting]) others kept
  cases stands with
  | probes time told here within undecided =>
    exact .probes time told (stays _ here) within undecided
  | pauses time told here more undecided =>
    exact .pauses time told (stays _ here) more undecided
  | settled _ _ _ settles _ =>
    rw [settles.ended] at lasts
    cases lasts

theorem step (keeps : v.Keeps settings started last t) (step : v.Step t u) :
    ∃ last, v.Keeps settings started last u := by
  cases step with
  | answered asks => exact ⟨last, keeps.answered asks⟩
  | passes time pauses within => exact ⟨last, keeps.passes pauses within⟩
  | wakes pauses => exact ⟨last + 1, keeps.wakes pauses⟩
  | elsewhere move lasts allowed others kept =>
    exact ⟨last, keeps.elsewhere lasts allowed others kept⟩

theorem run (keeps : v.Keeps settings started last t) (course : Relation.ReflTransGen v.Step t u) :
    ∃ last, v.Keeps settings started last u := by
  induction course with
  | refl => exact ⟨last, keeps⟩
  | tail _ step induction =>
    obtain ⟨_, keeps⟩ := induction
    exact keeps.step step

/-- An answer leads to the end or to a pause. -/
theorem canEnd_of_pauses (keeps : v.Keeps settings started last t)
    (paused : ∀ w due, v.Keeps settings started last w → w.told = .time due → v.CanEnd w) :
    v.CanEnd t := by
  cases told : t.told with
  | time due => exact paused t due keeps told
  | probe session =>
    have later := keeps.answered told
    have step : v.Step t _ := .answered told
    cases next : (v.proceed t (.probed (v.answers (t.asked.length - 1)))).told with
    | time due =>
      obtain ⟨u, course, ended⟩ := paused _ due later next
      exact ⟨u, .head step course, ended⟩
    | probe again =>
      -- The page would have been asked once more than it has been.
      have longer := congrArg List.length (asked_proceed next)
      rw [later.asked, keeps.asked, List.length_append, List.length_range'] at longer
      exact absurd longer (Nat.ne_of_lt (Nat.lt_succ_self _))
    | _ => exact ⟨_, .single step, by simp [Moment.isOpen, next]⟩
  | _ => exact ⟨t, .refl, by simp [Moment.isOpen, told]⟩

/-- From everywhere on its way the vigil can come to its end. -/
theorem canEnd {left : Nat} (keeps : v.Keeps settings started last t)
    (few : settings.session.readyTimeoutMs.toNat ⌈/⌉ settings.pollInterval ≤ last + left) :
    v.CanEnd t := by
  -- A pause that ends leaves one probe less.
  induction left generalizing last t with
  | zero =>
    refine keeps.canEnd_of_pauses fun w due keeps pauses => ?_
    obtain ⟨_, _, _, more, _⟩ := keeps.stands.of_pause pauses
    exact absurd more (Nat.not_lt.mpr few)
  | succ left induction =>
    refine keeps.canEnd_of_pauses fun w due keeps pauses => ?_
    obtain ⟨_, early, _⟩ := keeps.stands.of_pause pauses
    have early : w.now + (due - w.now) = due := Nat.add_sub_cancel' early
    have awake : w.told = .time (w.now + (due - w.now)) := by rw [early, pauses]
    have rested := keeps.passes pauses (Nat.le_of_eq early)
    obtain ⟨u, course, ended⟩ := induction (rested.wakes awake) (by omega)
    exact ⟨u, .head (.passes _ pauses (Nat.le_of_eq early)) (.head (.wakes awake) course), ended⟩

end Keeps

end Vigil

end Session

/-! ## All waits -/

open Run Session Relation
open Program (Transcript Follows)

/-- A page that fails an evaluation and then goes on loading. -/
def loadingPage : Vigil where
  purpose := .ensure
  slot := 0
  id := 0
  session := "S1"
  answers probe := if probe = 0 then .error (.evaluation "no document") else .ok (.str "loading")

theorem loadingPage_undecided (probe : Nat) : ready? (loadingPage.answers probe) = none := by
  unfold loadingPage
  dsimp only
  split <;> decide

end BrowserScript

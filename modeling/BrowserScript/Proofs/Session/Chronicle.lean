import Mathlib.Logic.Relation
import BrowserScript.Proofs.Session.Custody

/-!
# The chronicle of sessions

A run of the manager with everything that has been reported of sessions so far. Of every session
that has been obtained it is known where it is, or why it is nowhere. Main definitions:
`Session.Point`, `Session.since`, `Session.Point.Step`, `Session.Follows`, `Session.Chronicled`.
Main result: `Session.Follows.chronicled`.
-/

set_option autoImplicit false

namespace BrowserScript.Session

open Manager

/-- A moment in a run of the manager. -/
structure Point where
  now : Nat
  manager : Manager
  /-- What has been reported of sessions, the latest first. -/
  log : List Report

/-- The report is that the session has been obtained. -/
def Report.obtains (session : String) : Report → Bool
  | obtained other _ _ => other == session
  | _ => false

/-- What has been reported since a session was obtained. -/
def since (session : String) (log : List Report) : List Report :=
  log.takeWhile fun report => !report.obtains session

namespace Point

/-- The beginning of all runs. -/
def start (settings : Settings) : Point := ⟨0, ofSettings settings, []⟩

/-- What a move makes of a moment. -/
def after (p : Point) (move : Move) : Point :=
  ⟨p.now, (p.manager.move p.now move).1, p.manager.reports p.now move ++ p.log⟩

/-- What the surroundings of the manager keep to. -/
structure Fits (p : Point) (move : Move) : Prop where
  allowed : p.manager.Allows move
  /-- The browser does not use the name of a session again. -/
  fresh : ∀ id session, move = .resume id (.attached (.ok session)) →
    p.log.any (Report.obtains session) = false
  /-- Who asks for a newer session has seen the old one fail. -/
  lost : ∀ stale, move = .recover stale →
    .failed stale.sessionId ∈ since stale.sessionId p.log

/-- What can happen next. -/
inductive Step : Point → Point → Prop
  | wait (p : Point) (time : Nat) : Step p { p with now := p.now + time }
  /-- A call on a session fails because the session is gone. -/
  | fails (p : Point) (session : String) : Step p { p with log := .failed session :: p.log }
  | move (p : Point) (move : Move) (fits : p.Fits move) : Step p (p.after move)

end Point

/-- Everything that can come of a moment. -/
def Follows : Point → Point → Prop := Relation.ReflTransGen Point.Step

variable {m after : Manager} {i j : SlotId} {id other : OperationId} {session target : String}
  {home : Bool} {news log : List Report} {stale? : Option String} {p q : Point}

theorem Follows.move (history : Follows p q) (move : Move) (fits : q.Fits move) :
    Follows p (q.after move) :=
  Relation.ReflTransGen.tail history (.move q move fits)

/-! ## What has been reported since -/

theorem since_append (old : ∀ target home, .obtained session target home ∉ news) :
    since session (news ++ log) = news ++ since session log := by
  unfold since
  refine List.takeWhile_append_of_pos fun report member => ?_
  cases report with
  | obtained other target home =>
    have different : other ≠ session := fun same => old target home (same ▸ member)
    simp [Report.obtains, different]
  | released | failed | detached | closed | dropped => rfl

theorem since_obtained : since session (.obtained session target home :: log) = [] := by
  simp [since, Report.obtains]

/-! ## What holds in every moment -/

/-- What holds of the sessions that have been obtained. -/
structure Chronicled (p : Point) : Prop where
  sound : Sound p.manager
  unique : ∀ session target target' home home', .obtained session target home ∈ p.log →
    .obtained session target' home' ∈ p.log → target = target' ∧ home = home'
  /-- A session in custody has been obtained for the target of the slot. -/
  traced : ∀ i session, p.manager.Has i session → .obtained session
    (p.manager.slot i).target (p.manager.slot i).known ∈ p.log
  settled : ∀ session target home, .obtained session target home ∈ p.log →
    (∃ i, p.manager.Has i session) ∨ Discharged (since session p.log) session target home
  apart : p.manager.Apart
  /-- A session in custody has not been given up. -/
  kept : ∀ i session, p.manager.Has i session → .released session ∉ since session p.log

theorem chronicled_start (settings : Settings) : Chronicled (.start settings) := by
  have sound := sound_ofSettings settings
  have empty : ∀ i, (ofSettings settings).held? i = none := fun i => by
    rw [held?, slot_outside (Nat.zero_le i)]
    rfl
  have alone : ∀ id, (ofSettings settings).waiting? id = none := fun _ => rfl
  have apart : (ofSettings settings).Apart := by constructor <;> grind
  constructor <;> grind [Point.start, Has]

/-- A session is reported as obtained when the browser says so, and then it is a new one. -/
theorem Point.Fits.new {move : Move} (fits : p.Fits move)
    (obtained : .obtained session target home ∈ p.manager.reports p.now move) (target' : String)
    (home' : Bool) : .obtained session target' home' ∉ p.log := by
  obtain ⟨id, _, answered, _⟩ := reports_obtained obtained
  intro again
  have fresh := List.any_eq_false.mp (fits.fresh id session answered) _ again
  simp [Report.obtains] at fresh

theorem Point.Fits.lost_of_stale {move : Move} (fits : p.Fits move)
    (stale : move.stale? = some session) : .failed session ∈ since session p.log := by
  cases move with
  | recover handle =>
    obtain rfl := Option.some.inj stale
    exact fits.lost handle rfl
  | ensure | detach | acquire | resume | release | abandon | notice => cases stale

section Move

variable {move : Move} (chronicled : Chronicled p) (fits : p.Fits move)
include chronicled fits

theorem Chronicled.turnover :
    Turnover p.manager (p.after move).manager (p.manager.reports p.now move) move.stale? :=
  move_turnover p.now chronicled.sound fits.allowed

omit chronicled in
/-- What is reported of a session that has been obtained before. -/
theorem Point.Fits.since_after (obtained : .obtained session target home ∈ p.log) :
    since session (p.after move).log =
      p.manager.reports p.now move ++ since session p.log :=
  since_append fun _ _ again => fits.new again _ _ obtained

/-- A session that is obtained has not been in custody. -/
theorem Chronicled.not_has
    (obtained : .obtained session target home ∈ p.manager.reports p.now move) (i : SlotId) :
    ¬ p.manager.Has i session :=
  fun has => fits.new obtained _ _ (chronicled.traced i session has)

theorem Chronicled.unique_after {target' : String} {home' : Bool}
    (one : .obtained session target home ∈ (p.after move).log)
    (another : .obtained session target' home' ∈ (p.after move).log) :
    target = target' ∧ home = home' := by
  have turnover := chronicled.turnover fits
  rcases List.mem_append.mp one with new | old
  · rcases List.mem_append.mp another with newToo | old
    · obtain ⟨_, _, reports⟩ := turnover.obtained new
      rw [reports, List.mem_singleton] at newToo
      cases newToo
      exact ⟨rfl, rfl⟩
    · exact absurd old (fits.new new _ _)
  · rcases List.mem_append.mp another with new | oldToo
    · exact absurd old (fits.new new _ _)
    · exact chronicled.unique _ _ _ _ _ old oldToo

theorem Chronicled.traced_after (has : (p.after move).manager.Has i session) :
    .obtained session ((p.after move).manager.slot i).target
      ((p.after move).manager.slot i).known ∈ (p.after move).log := by
  refine List.mem_append.mpr ?_
  rcases (chronicled.turnover fits).has has with had | reports
  · obtain ⟨known, home⟩ := move_fixed chronicled.sound fits.allowed has
      (had.inside chronicled.sound)
    have traced := chronicled.traced i session had
    rw [← known, ← home] at traced
    exact .inr traced
  · rw [reports]
    exact .inl (List.mem_singleton_self _)

theorem Chronicled.settled_after (obtained : .obtained session target home ∈ (p.after move).log) :
    (∃ i, (p.after move).manager.Has i session) ∨
      Discharged (since session (p.after move).log) session target home := by
  have turnover := chronicled.turnover fits
  rcases List.mem_append.mp obtained with new | old
  · obtain ⟨i, has, _⟩ := turnover.obtained new
    exact .inl ⟨i, has⟩
  · rw [fits.since_after old]
    rcases chronicled.settled _ _ _ old with ⟨i, had⟩ | discharged
    · obtain ⟨rfl, rfl⟩ := chronicled.unique _ _ _ _ _ old (chronicled.traced i session had)
      rcases turnover.had had with has | stale | discharged
      · exact .inl ⟨i, has⟩
      · refine .inr (.inr (.inl (List.mem_append_right _ ?_)))
        exact fits.lost_of_stale stale
      · exact .inr (discharged.mono (List.subset_append_left _ _))
    · exact .inr (discharged.mono (List.subset_append_right _ _))

theorem Chronicled.apart_after : (p.after move).manager.Apart := by
  refine (chronicled.turnover fits).apart chronicled.apart fun session target home obtained i => ?_
  exact chronicled.not_has fits obtained i

theorem Chronicled.kept_after (has : (p.after move).manager.Has i session) :
    .released session ∉ since session (p.after move).log := by
  have turnover := chronicled.turnover fits
  rcases turnover.has has with had | reports
  · rw [fits.since_after (chronicled.traced i session had), List.mem_append]
    rintro (released | released)
    · exact turnover.released chronicled.apart released i has
    · exact chronicled.kept i session had released
  · rw [Point.after, reports, List.singleton_append, since_obtained]
    exact List.not_mem_nil

/-- What holds of sessions is kept by every move. -/
theorem Chronicled.moved : Chronicled (p.after move) where
  sound := by
    obtain ⟨_, effect, _⟩ := move_effect p.now chronicled.sound fits.allowed
    exact effect.acts.sound chronicled.sound
  unique _ _ _ _ _ one another := chronicled.unique_after fits one another
  traced _ _ has := chronicled.traced_after fits has
  settled _ _ _ obtained := chronicled.settled_after fits obtained
  apart := chronicled.apart_after fits
  kept _ _ has := chronicled.kept_after fits has

end Move

theorem since_failed (lost : String) :
    since session (.failed lost :: log) = .failed lost :: since session log :=
  List.takeWhile_cons_of_pos rfl

theorem Chronicled.failed (chronicled : Chronicled p) (lost : String) :
    Chronicled { p with log := .failed lost :: p.log } := by
  obtain ⟨sound, unique, traced, settled, apart, kept⟩ := chronicled
  refine ⟨sound, ?_, ?_, ?_, apart, ?_⟩
  · intro session target target' home home' one another
    simp only [List.mem_cons, reduceCtorEq, false_or] at one another
    exact unique _ _ _ _ _ one another
  · intro i session has
    exact List.mem_cons_of_mem _ (traced i session has)
  · intro session target home obtained
    simp only [List.mem_cons, reduceCtorEq, false_or] at obtained
    rw [since_failed]
    rcases settled _ _ _ obtained with has | discharged
    · exact .inl has
    · exact .inr (discharged.mono (List.subset_cons_self _ _))
  · intro i session has
    rw [since_failed, List.mem_cons]
    rintro (same | released)
    · cases same
    · exact kept i session has released

theorem Chronicled.step (chronicled : Chronicled p) (step : p.Step q) : Chronicled q := by
  cases step with
  | wait time => exact ⟨chronicled.sound, chronicled.unique, chronicled.traced, chronicled.settled,
      chronicled.apart, chronicled.kept⟩
  | fails session => exact chronicled.failed session
  | move move fits => exact chronicled.moved fits

theorem Chronicled.follows (chronicled : Chronicled p) (later : Follows p q) : Chronicled q := by
  induction later with
  | refl => exact chronicled
  | tail _ step induction => exact induction.step step

/-- Of sessions this holds in every run. -/
theorem Follows.chronicled {settings : Settings} (history : Follows (.start settings) p) :
    Chronicled p :=
  (chronicled_start settings).follows history

/-! ## A run with one target -/

namespace Point

/-- A session has been obtained, and its page is waited for. -/
def opened : Point :=
  ((start {}).after (.ensure "T1")).after (.resume 0 (.attached (.ok "S1")))

/-- The page has turned out to be ready. -/
def attached : Point := opened.after (.resume 0 (.probed (.ok (.str "complete"))))

theorem opened_follows : Follows (start {}) opened := by
  have wanted : Follows (start {}) _ := Follows.move .refl (.ensure "T1") ⟨trivial, nofun, nofun⟩
  exact wanted.move (.resume 0 (.attached (.ok "S1")))
    ⟨⟨_, rfl, rfl⟩, by rintro _ _ ⟨⟩; rfl, nofun⟩

theorem attached_follows : Follows (start {}) attached :=
  opened_follows.move (.resume 0 (.probed (.ok (.str "complete"))))
    ⟨⟨_, rfl, rfl⟩, nofun, nofun⟩

end Point

end BrowserScript.Session

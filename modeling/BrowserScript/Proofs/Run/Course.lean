import BrowserScript.Proofs.Run.Tree

/-!
# Courses

A piece of a run takes a course if, undisturbed, it does exactly what the course allows: what is
seen of it, how many steps it completes, and how it ends. Courses follow one another as the pieces
do. Main definitions: `Run.Course`, `Run.Takes`. Main results: `Run.Takes.bind`,
`Run.guarded_takes`, `Run.meets_takes`, `Run.completed_takes`.
-/

set_option autoImplicit false

namespace BrowserScript.Run

open Running

variable {α β : Type} {stage : Stage}

/-- What may be seen of a piece of a run, how many steps it may complete, and how it may end. -/
abbrev Course (α : Type) : Type := Log → Nat → Except RunError α → Prop

namespace Course

/-- One course after the other, up to the first failure. -/
def andThen (first : Course α) (next : α → Course β) : Course β := fun log count outcome =>
  (∃ error, first log count (.error error) ∧ outcome = .error error) ∨
  ∃ value opening rest early late, first opening early (.ok value) ∧
    next value rest late outcome ∧ log = opening ++ rest ∧ count = early + late

/-- Just this exchange, with so many steps completed. -/
def only (value : α) (seen : Log) (completed : Nat) : Course α := fun log count outcome =>
  log = seen ∧ count = completed ∧ outcome = .ok value

theorem only_andThen {value : α} {seen log : Log} {completed count : Nat} {next : α → Course β}
    {outcome : Except RunError β} :
    andThen (only value seen completed) next log count outcome ↔
      ∃ rest late, next value rest late outcome ∧ log = seen ++ rest ∧
        count = completed + late := by
  constructor
  · rintro (⟨_, ⟨_, _, same⟩, _⟩ | ⟨_, _, rest, _, late, ⟨rfl, rfl, same⟩, further, rfl, rfl⟩)
    · cases same
    · cases same
      exact ⟨rest, late, further, rfl, rfl⟩
  · rintro ⟨rest, late, further, rfl, rfl⟩
    exact .inr ⟨value, seen, rest, completed, late, ⟨rfl, rfl, rfl⟩, further, rfl, rfl⟩

theorem idle_andThen {value : α} {log : Log} {count : Nat} {next : α → Course β}
    {outcome : Except RunError β} :
    andThen (only value [] 0) next log count outcome ↔ next value log count outcome := by
  rw [only_andThen]
  constructor
  · rintro ⟨rest, late, further, rfl, rfl⟩
    rw [Nat.zero_add]
    exact further
  · intro further
    exact ⟨log, count, further, rfl, (Nat.zero_add count).symm⟩

end Course

/-- The course of checking a condition. -/
def Stage.check (stage : Stage) (place : Place) (condition : Option Condition) : Course Bool :=
  fun log count outcome => count = 0 ∧ Checks stage place condition log outcome

/-- The state with more steps completed. -/
def more (state : RunState) (count : Nat) : RunState :=
  { state with executed := state.executed + count }

/-- The run is on the session of the stage and in its top-level step. -/
def Stage.Holds (stage : Stage) (state : RunState) : Prop :=
  state.session.sessionId = stage.session ∧ state.index = stage.index

/-- Undisturbed, this can be seen of a program. -/
def Shows (program : RunProgram α) (trace : Log) (result : α) : Prop :=
  ∃ log, Undisturbed log ∧ visible log = trace ∧ Program.Transcript program log result

/-- Undisturbed, this can be seen of a piece of a run. -/
def Seen (piece : Running α) (before : RunState) (trace : Log) (outcome : Except RunError α)
    (after : RunState) : Prop :=
  Shows (piece.run.run before) trace (outcome, after)

/-- Undisturbed, a piece of a run does exactly what the course allows. -/
def Takes (stage : Stage) (piece : Running α) (course : Course α) : Prop :=
  ∀ before trace outcome after, stage.Holds before →
    (Seen piece before trace outcome after ↔
      ∃ count, Undisturbed trace ∧ course trace count outcome ∧ after = more before count)

theorem undisturbed_visible {log : Log} (undisturbed : Undisturbed log) :
    Undisturbed (visible log) := fun entry member =>
  undisturbed entry (List.mem_filter.mp member).1

theorem visible_stepwise {log : Log} (stepwise : ∀ entry ∈ log, entry.request.isStepwise = true) :
    visible log = log := by
  refine List.filter_eq_self.mpr fun entry member => ?_
  obtain ⟨request, answer⟩ := entry
  have asks := stepwise _ member
  cases request <;> first | rfl | cases asks

namespace Takes

theorem congr {piece : Running α} {course other : Course α} (takes : Takes stage piece course)
    (same : ∀ log count outcome, course log count outcome ↔ other log count outcome) :
    Takes stage piece other := by
  intro before trace outcome after holds
  rw [takes before trace outcome after holds]
  simp only [same]

theorem pure (value : α) : Takes stage (Pure.pure value) (.only value [] 0) := by
  intro before trace outcome after _
  constructor
  · rintro ⟨log, undisturbed, rfl, run⟩
    obtain ⟨rfl, rfl, rfl⟩ := Goes.pure_iff.mp run
    exact ⟨0, undisturbed, ⟨rfl, rfl, rfl⟩, rfl⟩
  · rintro ⟨_, undisturbed, ⟨rfl, rfl, rfl⟩, rfl⟩
    exact ⟨[], undisturbed, rfl, Goes.pure_iff.mpr ⟨rfl, rfl, rfl⟩⟩

/-- A piece that takes a course is seen to take it, and then what follows it is seen. -/
theorem seen_bind {first : Running α} {next : α → Running β} {course : Course α}
    (takes : Takes stage first course) {before after : RunState} {trace : Log}
    {outcome : Except RunError β} (holds : stage.Holds before) :
    Seen (first >>= next) before trace outcome after ↔
      (∃ error count, Undisturbed trace ∧ course trace count (.error error) ∧
        outcome = .error error ∧ after = more before count) ∨
      ∃ value opening closing count, Undisturbed opening ∧ course opening count (.ok value) ∧
        Seen (next value) (more before count) closing outcome after ∧
          trace = opening ++ closing := by
  constructor
  · rintro ⟨log, undisturbed, rfl, run⟩
    rcases Goes.bind_iff.mp run with
      ⟨error, failed, rfl⟩ | ⟨value, middle, opening, closing, early, late, rfl⟩
    · obtain ⟨count, calm, taken, rfl⟩ :=
        (takes before _ _ after holds).mp ⟨log, undisturbed, rfl, failed⟩
      exact .inl ⟨error, count, calm, taken, rfl, rfl⟩
    · obtain ⟨calmEarly, calmLate⟩ := undisturbed_append.mp undisturbed
      obtain ⟨count, calm, taken, rfl⟩ :=
        (takes before _ _ middle holds).mp ⟨opening, calmEarly, rfl, early⟩
      exact .inr ⟨value, visible opening, visible closing, count, calm, taken,
        ⟨closing, calmLate, rfl, late⟩, visible_append opening closing⟩
  · rintro (⟨error, count, calm, taken, rfl, rfl⟩ |
      ⟨value, opening, _, count, calm, taken, ⟨closing, still, rfl, late⟩, rfl⟩)
    · obtain ⟨log, undisturbed, rfl, failed⟩ :=
        (takes before trace _ _ holds).mpr ⟨count, calm, taken, rfl⟩
      exact ⟨log, undisturbed, rfl, Goes.bind_iff.mpr (.inl ⟨error, failed, rfl⟩)⟩
    · obtain ⟨log, undisturbed, rfl, early⟩ :=
        (takes before opening _ _ holds).mpr ⟨count, calm, taken, rfl⟩
      exact ⟨log ++ closing, undisturbed_append.mpr ⟨undisturbed, still⟩, visible_append _ _,
        Goes.bind_iff.mpr (.inr ⟨value, _, log, closing, early, late, rfl⟩)⟩

/-- Pieces that follow one another take courses that follow one another. -/
theorem bind {first : Running α} {next : α → Running β} {course : Course α}
    {further : α → Course β} (start : Takes stage first course)
    (rest : ∀ value, Takes stage (next value) (further value)) :
    Takes stage (first >>= next) (course.andThen further) := by
  intro before trace outcome after holds
  rw [start.seen_bind holds]
  constructor
  · rintro (⟨error, count, calm, taken, rfl, rfl⟩ |
      ⟨value, opening, closing, count, calm, taken, seen, rfl⟩)
    · exact ⟨count, calm, .inl ⟨error, taken, rfl⟩, rfl⟩
    · obtain ⟨others, still, onward, rfl⟩ :=
        (rest value (more before count) _ _ after holds).mp seen
      refine ⟨count + others, undisturbed_append.mpr ⟨calm, still⟩,
        .inr ⟨value, opening, closing, count, others, taken, onward, rfl, rfl⟩, ?_⟩
      simp only [more, Nat.add_assoc]
  · rintro ⟨count, calm, (⟨error, taken, rfl⟩ |
      ⟨value, opening, closing, early, late, taken, onward, rfl, rfl⟩), rfl⟩
    · exact .inl ⟨error, count, calm, taken, rfl, rfl⟩
    · obtain ⟨calmEarly, calmLate⟩ := undisturbed_append.mp calm
      refine .inr ⟨value, opening, closing, early, calmEarly, taken, ?_, rfl⟩
      refine (rest value (more before early) closing _ _ holds).mpr ⟨late, calmLate, onward, ?_⟩
      simp only [more, Nat.add_assoc]

/-- What is seen of one request is the request, unless it asks whether the run is wanted. -/
theorem request (request : Request) (shown : request.isCheck = false) :
    Takes stage (ask (Program.request request)) fun log count outcome =>
      ∃ answer, log = [⟨request, answer⟩] ∧ count = 0 ∧ outcome = .ok answer := by
  have seen : ∀ answer, visible [⟨request, answer⟩] = [⟨request, answer⟩] := by
    intro answer
    refine List.filter_eq_self.mpr fun entry member => ?_
    rw [List.mem_singleton.mp member, shown]
    rfl
  intro before trace outcome after _
  constructor
  · rintro ⟨log, undisturbed, rfl, run⟩
    obtain ⟨answer, asked, rfl, rfl⟩ := Goes.ask_iff.mp run
    obtain rfl := Program.Transcript.request_iff.mp asked
    exact ⟨0, undisturbed_visible undisturbed, ⟨answer, seen answer, rfl, rfl⟩, rfl⟩
  · rintro ⟨_, undisturbed, ⟨answer, rfl, rfl, rfl⟩, rfl⟩
    exact ⟨_, undisturbed, seen answer,
      Goes.ask_iff.mpr ⟨answer, Program.Transcript.request_iff.mpr rfl, rfl, rfl⟩⟩

end Takes

theorem failed_goes {place : Place} {cause : StepFailure} {before after : RunState} {log : Log}
    {outcome : Except RunError α} :
    Goes (stepFailed place cause : Running α) before log outcome after ↔
      log = [] ∧ outcome = .error (.stepFailed before.index place.path.text place.kind cause) ∧
        after = before :=
  Goes.get_bind_iff.trans Goes.throw_iff

/-- As long as the session lasts, an operation is tried once. -/
theorem guarded_takes {place : Place} (operation : String → StepProgram α)
    (plain : Plain (operation stage.session)) :
    Takes stage (guarded place operation) fun log count outcome =>
      count = 0 ∧ ∃ result, Program.Transcript (operation stage.session).run log result ∧
        outcome = result.mapError (stage.failure place) := by
  rintro before trace outcome after ⟨onSession, inStep⟩
  have once : ∀ log, Undisturbed log → (Goes (guarded place operation) before log outcome after ↔
      ∃ result, Program.Transcript (operation stage.session).run log result ∧
        outcome = result.mapError (stage.failure place) ∧ after = before) := by
    intro log undisturbed
    unfold guarded
    rw [Goes.get_bind_iff, Goes.ask_bind_iff, onSession]
    constructor
    · rintro ⟨result, opening, rest, run, finish, rfl⟩
      cases result with
      | ok value =>
        obtain ⟨rfl, rfl, rfl⟩ := Goes.pure_iff.mp finish
        rw [List.append_nil]
        exact ⟨.ok value, run, rfl, rfl⟩
      | error failure =>
        have kept := (plain opening _ run).2 (undisturbed_append.mp undisturbed).1
        rw [fails_error, Bool.not_eq_true] at kept
        simp only [kept, Bool.false_eq_true, if_false] at finish
        obtain ⟨rfl, rfl, rfl⟩ := failed_goes.mp finish
        rw [List.append_nil]
        refine ⟨.error failure, run, ?_, rfl⟩
        rw [inStep]
        rfl
    · rintro ⟨result, run, rfl, rfl⟩
      refine ⟨result, log, [], run, ?_, (List.append_nil log).symm⟩
      cases result with
      | ok value => exact Goes.pure_iff.mpr ⟨rfl, rfl, rfl⟩
      | error failure =>
        have kept := (plain log _ run).2 undisturbed
        rw [fails_error, Bool.not_eq_true] at kept
        simp only [kept, Bool.false_eq_true, if_false]
        refine failed_goes.mpr ⟨rfl, ?_, rfl⟩
        rw [inStep]
        rfl
  constructor
  · rintro ⟨log, undisturbed, rfl, run⟩
    obtain ⟨result, tried, same, rfl⟩ := (once log undisturbed).mp run
    rw [visible_stepwise (plain log result tried).1]
    exact ⟨0, undisturbed, ⟨rfl, result, tried, same⟩, rfl⟩
  · rintro ⟨_, undisturbed, ⟨rfl, result, run, same⟩, rfl⟩
    exact ⟨trace, undisturbed, visible_stepwise (plain trace result run).1,
      (once trace undisturbed).mpr ⟨result, run, same, rfl⟩⟩

/-- A run that is wanted goes on unseen. -/
theorem checkWanted_takes : Takes stage checkWanted (.only () [] 0) := by
  intro before trace outcome after _
  unfold checkWanted
  constructor
  · rintro ⟨log, undisturbed, rfl, run⟩
    obtain ⟨wanted, opening, rest, asked, finish, rfl⟩ := Goes.ask_bind_iff.mp run
    obtain rfl := Program.Transcript.request_iff.mp asked
    obtain rfl : wanted = false := undisturbed _ (.head _)
    obtain ⟨rfl, rfl, rfl⟩ := Goes.pure_iff.mp finish
    exact ⟨0, undisturbed_visible undisturbed, ⟨rfl, rfl, rfl⟩, rfl⟩
  · rintro ⟨_, _, ⟨rfl, rfl, rfl⟩, rfl⟩
    refine ⟨[⟨.isCancelled, false⟩], ?_, rfl, Goes.ask_bind_iff.mpr ⟨false, _, [],
      Program.Transcript.request_iff.mpr rfl, Goes.pure_iff.mpr ⟨rfl, rfl, rfl⟩, rfl⟩⟩
    intro entry member
    rw [List.mem_singleton.mp member]
    rfl

theorem meets_takes (place : Place) (condition : Option Condition) :
    Takes stage (meets stage.context place condition) (stage.check place condition) := by
  cases condition with
  | none =>
    refine (Takes.pure true).congr fun log count outcome => ?_
    constructor
    · rintro ⟨rfl, rfl, rfl⟩
      exact ⟨rfl, .unconditional⟩
    · rintro ⟨rfl, ⟨⟩⟩
      exact ⟨rfl, rfl, rfl⟩
  | some condition =>
    refine (guarded_takes (fun session => holds _ session condition)
      (holds_plain _ stage.session condition)).congr fun log count outcome => ?_
    constructor
    · rintro ⟨rfl, result, run, rfl⟩
      exact ⟨rfl, .checked run⟩
    · rintro ⟨rfl, check⟩
      cases check with
      | checked run => exact ⟨rfl, _, run, rfl⟩

theorem pause_takes {ms : UInt64} (isPause : ms ≠ 0) :
    Takes stage (ask (sleep ms.toNat)) (.only () (pause ms) 0) := by
  refine (Takes.request (.sleep ms.toNat) rfl).congr fun log count outcome => ?_
  unfold pause
  rw [if_neg isPause]
  constructor
  · rintro ⟨answer, rfl, rfl, rfl⟩
    exact ⟨rfl, rfl, rfl⟩
  · rintro ⟨rfl, rfl, rfl⟩
    exact ⟨(), rfl, rfl, rfl⟩

/-- A completed step is counted and reported once. -/
theorem completed_takes (place : Place) :
    Takes stage (completed stage.context place) (.only () (stage.reported place) 1) := by
  rintro before trace outcome after ⟨_, inStep⟩
  have once : ∀ log, Goes (completed stage.context place) before log outcome after ↔
      log = stage.reported place ∧ outcome = .ok () ∧ after = more before 1 := by
    intro log
    unfold completed Stage.reported
    rw [Goes.modify_bind_iff, Goes.get_bind_iff, Goes.ask_iff, ← inStep]
    constructor
    · rintro ⟨answer, asked, rfl, rfl⟩
      exact ⟨Program.Transcript.request_iff.mp asked, rfl, rfl⟩
    · rintro ⟨rfl, rfl, rfl⟩
      exact ⟨(), Program.Transcript.request_iff.mpr rfl, rfl, rfl⟩
  constructor
  · rintro ⟨log, undisturbed, rfl, run⟩
    obtain ⟨rfl, rfl, rfl⟩ := (once log).mp run
    exact ⟨1, undisturbed, ⟨rfl, rfl, rfl⟩, rfl⟩
  · rintro ⟨_, undisturbed, ⟨rfl, rfl, rfl⟩, rfl⟩
    exact ⟨_, undisturbed, rfl, (once _).mpr ⟨rfl, rfl, rfl⟩⟩

end BrowserScript.Run

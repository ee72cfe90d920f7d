import BrowserScript.Proofs.Run.Marked
import BrowserScript.Proofs.Run.Standing
import BrowserScript.Proofs.Session.Recovery
import BrowserScript.Proofs.Lists

/-!
# Tries

An operation is tried once, and once more only on a later session of the same target that has been
recovered after the first one went away. A diary in which that is so of every operation says which
session each page call is made on. Main definitions: `Run.Attempted`, `Run.Tries`, `Run.Spans`. Main
results: `Run.Spans.begun`, `Run.Spans.recovered`.
-/

set_option autoImplicit false

namespace BrowserScript.Run

open Running

variable {α β : Type} {settings : Settings} {task : Task} {operation : Operation}
  {session handle last : SessionHandle} {diary part rest : Diary}

/-! ## What a diary says -/

/-- On what a mark says that an operation is tried. -/
def Mark.tried? : Mark → Option SessionHandle
  | tries session => some session
  | _ => none

/-- What is only done on behalf of an operation. -/
def Mark.isWork : Mark → Bool
  | tries _ | ends _ | asks (.page _ _) | asks (.recover _) => true
  | _ => false

namespace Diary

/-- The sessions on which operations are tried, in order. -/
def tried (diary : Diary) : List SessionHandle :=
  diary.filterMap fun entry => entry.request.tried?

/-- The session on which an operation was tried last. -/
def latest? (diary : Diary) : Option SessionHandle := diary.tried.getLast?

/-- Nothing is done on behalf of an operation unless one is begun. -/
def Idle (diary : Diary) : Prop :=
  ∀ (before : Diary) entry after, diary = before ++ entry :: after →
    entry.request.isWork = true → ∃ operation, ⟨.begins operation, ()⟩ ∈ before

/-- There are only requests on the way out. -/
def Leaves (diary : Diary) : Prop :=
  ∀ entry ∈ diary, ∃ request answer, entry = ⟨.asks request, answer⟩ ∧ request.isLeaving = true

/-- Every page call is made where an operation is being tried, on the session of that try, and none
of these sessions is older than the given one. -/
def Calls (oldest : SessionHandle) (diary : Diary) : Prop :=
  ∀ (before : Diary) session call answer after,
    diary = before ++ ⟨.asks (.page session call), answer⟩ :: after →
      ∃ handle, before.latest? = some handle ∧ handle.sessionId = session ∧ oldest.Since handle

/-- Every recovered session is a later one of the same target. -/
def Recovered (diary : Diary) : Prop :=
  ∀ stale handle, ⟨.asks (.recover stale), (some handle : Option SessionHandle)⟩ ∈ diary →
    stale.Precedes handle

end Diary

/-! ## Tries -/

/-- An operation has been tried on a session, with this failure or none. -/
inductive Attempted (settings : Settings) (task : Task) (session : SessionHandle) :
    Diary → Option StepFailure → Prop
  | intro {log : Log} {outcome : Except StepFailure task.Value}
      (run : Program.Transcript (task.program settings session.sessionId).run log outcome) :
      Attempted settings task session
        (⟨.tries session, ()⟩ :: (log.unmarked ++ [⟨.ends (failure? outcome), ()⟩]))
        (failure? outcome)

/-- What becomes of an operation. -/
inductive Verdict where
  | done
  | fails (cause : StepFailure)
  /-- The session is lost. -/
  | loses
  deriving DecidableEq, Repr

namespace Verdict

/-- What the last try of an operation says. -/
def ofTry : Option StepFailure → Verdict
  | none => done
  | some cause => if cause.isDetach then loses else fails cause

/-- How an operation ends its run. -/
def error? (index : Nat) (place : Place) : Verdict → Option RunError
  | done => none
  | fails cause => some (.stepFailed index place.path.text place.kind cause)
  | loses => some (.sessionLost index place.path.text place.kind)

/-- The codes of a run that an operation has ended. -/
def codes : Verdict → List ResultCode
  | done => []
  | fails _ => [.stepFailed, .notFound]
  | loses => [.sessionLost]

/-- The operation has ended its run. -/
structure Reported (verdict : Verdict) (target : String) (place : Place) (result : RunResult) :
    Prop where
  code : result.code ∈ verdict.codes
  report : ∃ index error executed took, verdict.error? index place = some error ∧
    result = .report target (.error error) executed took

end Verdict

theorem error?_of_gone {cause : StepFailure} (gone : cause.isDetach = true) (index : Nat)
    (place : Place) : (Verdict.ofTry (some cause)).error? index place =
      some (.sessionLost index place.path.text place.kind) := by
  rw [Verdict.ofTry, if_pos gone]
  rfl

theorem error?_of_other {cause : StepFailure} (other : ¬ cause.isDetach = true) (index : Nat)
    (place : Place) : (Verdict.ofTry (some cause)).error? index place =
      some (.stepFailed index place.path.text place.kind cause) := by
  rw [Verdict.ofTry, if_neg other]
  rfl

/-- The tries of an operation on the session of the run, what becomes of the operation, and the
session of the run after that. -/
inductive Tries (settings : Settings) (task : Task) (session : SessionHandle) :
    Diary → Verdict → SessionHandle → Prop
  | once {part : Diary} {failure : Option StepFailure}
      (attempt : Attempted settings task session part failure)
      (settled : ∀ cause, failure = some cause → cause.isDetach = false) :
      Tries settings task session part (.ofTry failure) session
  | unrecovered {part : Diary} {cause : StepFailure}
      (attempt : Attempted settings task session part (some cause))
      (gone : cause.isDetach = true) :
      Tries settings task session
        (part ++ [⟨.asks (.recover session), (none : Option SessionHandle)⟩]) .loses session
  | again {part rest : Diary} {cause : StepFailure} {failure : Option StepFailure}
      {handle : SessionHandle} (attempt : Attempted settings task session part (some cause))
      (gone : cause.isDetach = true) (newer : session.Precedes handle)
      (retry : Attempted settings task handle rest failure) :
      Tries settings task session
        (part ++ ⟨.asks (.recover session), (some handle : Option SessionHandle)⟩ :: rest)
        (.ofTry failure) handle

/-- A piece of a run goes from one session to another, through operations and requests that are none
of theirs, until it ends or an operation ends it. -/
inductive Spans (settings : Settings) :
    SessionHandle → Diary → Option (Place × Verdict) → SessionHandle → Prop
  | rests (session : SessionHandle) : Spans settings session [] none session
  | asks {session last : SessionHandle} {request : Request} {answer : request.Answer}
      {diary : Diary} {ending : Option (Place × Verdict)}
      (other : (Mark.asks request).isWork = false)
      (rest : Spans settings session diary ending last) :
      Spans settings session (⟨.asks request, answer⟩ :: diary) ending last
  | works {session next last : SessionHandle} {operation : Operation} {part diary : Diary}
      {ending : Option (Place × Verdict)}
      (tries : Tries settings operation.task session part .done next)
      (rest : Spans settings next diary ending last) :
      Spans settings session (⟨.begins operation, ()⟩ :: (part ++ diary)) ending last
  | ends {session last : SessionHandle} {operation : Operation} {part later : Diary}
      {verdict : Verdict} (tries : Tries settings operation.task session part verdict last)
      (undone : verdict ≠ .done) (leaves : later.Leaves) :
      Spans settings session (⟨.begins operation, ()⟩ :: (part ++ later))
        (some (operation.place, verdict)) last

namespace Spans

theorem append {middle : SessionHandle} {ending before? : Option (Place × Verdict)}
    (first : Spans settings session diary before? middle) (open? : before? = none)
    (second : Spans settings middle rest ending last) :
    Spans settings session (diary ++ rest) ending last := by
  induction first with
  | rests => exact second
  | asks other _ induction => exact .asks other (induction open? second)
  | works tries _ induction =>
    rw [List.cons_append, List.append_assoc]
    exact .works tries (induction open? second)
  | ends => cases open?

/-- A run that an operation has ended leaves. -/
theorem leave {ending : Option (Place × Verdict)} {later : Diary}
    (spans : Spans settings session diary ending last) (ended : ending ≠ none)
    (leaves : later.Leaves) : Spans settings session (diary ++ later) ending last := by
  induction spans with
  | rests => exact absurd rfl ended
  | asks other _ induction => exact .asks other (induction ended)
  | works tries _ induction =>
    rw [List.cons_append, List.append_assoc]
    exact .works tries (induction ended)
  | ends tries undone before =>
    rw [List.cons_append, List.append_assoc]
    exact .ends tries undone (List.forall_mem_append.mpr ⟨before, leaves⟩)

end Spans

/-! ## What the tries of an operation say -/

theorem task_bound (settings : Settings) (session : String) (task : Task) :
    Bound session (task.program settings session) := by
  cases task with
  | checks check condition => exact holds_bound _ session condition
  | performs timeout action => exact perform_bound settings session timeout action

namespace Diary

variable {oldest : SessionHandle}

theorem tried_append (before after : Diary) :
    (before ++ after).tried = before.tried ++ after.tried :=
  List.filterMap_append

theorem Recovered.of_append (recovered : Recovered (diary ++ rest)) :
    diary.Recovered ∧ rest.Recovered :=
  ⟨fun stale handle member => recovered stale handle (List.mem_append_left rest member),
    fun stale handle member => recovered stale handle (List.mem_append_right diary member)⟩

/-- The given session may be an older one. -/
theorem Calls.mono (calls : diary.Calls session) (since : oldest.Since session) :
    diary.Calls oldest := by
  intro before called call answer after same
  obtain ⟨handle, latest, through, later⟩ := calls before called call answer after same
  exact ⟨handle, latest, through, since.trans later⟩

theorem Calls.append (first : diary.Calls oldest) (second : rest.Calls oldest) :
    Calls oldest (diary ++ rest) := by
  intro before called call answer after same
  rcases split_cons same with ⟨middle, rfl, _⟩ | ⟨middle, rfl, rfl⟩
  · exact first before called call answer middle rfl
  · obtain ⟨handle, latest, through, later⟩ := second middle called call answer after rfl
    refine ⟨handle, ?_, through, later⟩
    have tried : (Diary.tried middle).getLast? = some handle := latest
    rw [latest?, tried_append, List.getLast?_append, tried]
    rfl

/-- Without a page call there is nothing to say. -/
theorem Calls.silent
    (silent : ∀ session call answer, ⟨.asks (.page session call), answer⟩ ∉ diary) :
    diary.Calls oldest := by
  rintro before called call answer after rfl
  exact absurd (List.mem_append_right before List.mem_cons_self) (silent called call answer)

theorem Calls.cons {entry : Program.Entry Mark Mark.Answer}
    (other : ∀ called call answer, entry ≠ ⟨.asks (.page called call), answer⟩)
    (calls : diary.Calls oldest) : Calls oldest (entry :: diary) := by
  have first : Calls oldest [entry] := .silent fun called call answer member =>
    other called call answer (List.mem_singleton.mp member).symm
  exact first.append calls

theorem Leaves.calls (leaves : diary.Leaves) : diary.Calls oldest := by
  refine Calls.silent fun called call answer member => ?_
  obtain ⟨request, _, same, leaving⟩ := leaves _ member
  cases same
  cases leaving

end Diary

namespace Attempted

variable {failure : Option StepFailure} (attempt : Attempted settings task session part failure)
include attempt

/-- A try makes requests to the page through its session and to the clock. -/
theorem mem (entry : Program.Entry Mark Mark.Answer) (member : entry ∈ part) :
    entry = ⟨.tries session, ()⟩ ∨ entry = ⟨.ends failure, ()⟩ ∨ ∃ request answer,
      entry = ⟨.asks request, answer⟩ ∧ request.isThrough session.sessionId = true := by
  obtain @⟨log, outcome, run⟩ := attempt
  rcases List.mem_cons.mp member with rfl | member
  · exact .inl rfl
  · rcases List.mem_append.mp member with asked | ended
    · obtain ⟨made, inLog, rfl⟩ := List.mem_map.mp asked
      have through := (task_bound settings session.sessionId task log outcome run).1 made inLog
      exact .inr (.inr ⟨_, _, rfl, through⟩)
    · exact .inr (.inl (List.mem_singleton.mp ended))

theorem begins_nothing (operation : Operation) : ⟨.begins operation, ()⟩ ∉ part := by
  intro member
  rcases attempt.mem _ member with same | same | ⟨_, _, same, _⟩ <;> cases same

theorem recovers_nothing (stale : SessionHandle) (answer : Option SessionHandle) :
    ⟨.asks (.recover stale), answer⟩ ∉ part := by
  intro member
  rcases attempt.mem _ member with same | same | ⟨_, _, same, through⟩
  · cases same
  · cases same
  · cases same
    cases through

theorem tried : part.tried = [session] := by
  obtain @⟨log, outcome, run⟩ := attempt
  have asked : log.unmarked.tried = [] := by
    refine List.filterMap_eq_nil_iff.mpr fun entry member => ?_
    obtain ⟨_, _, rfl⟩ := List.mem_map.mp member
    rfl
  change session :: Diary.tried (log.unmarked ++ _) = _
  rw [Diary.tried_append, asked]
  rfl

theorem calls : part.Calls session := by
  have members := attempt.mem
  have triedOnce := attempt.tried
  obtain @⟨log, outcome, run⟩ := attempt
  rintro before called call answer after same
  have through : session.sessionId = called := by
    have member : ⟨.asks (.page called call), answer⟩ ∈ before ++ _ :: after :=
      List.mem_append_right before List.mem_cons_self
    rw [← same] at member
    rcases members _ member with same | same | ⟨_, _, same, through⟩
    · cases same
    · cases same
    · cases same
      exact (beq_iff_eq.mp through).symm
  refine ⟨session, ?_, through, .inl rfl⟩
  cases before with
  | nil => cases same
  | cons entry before =>
    obtain ⟨rfl, further⟩ := List.cons.inj same
    rw [further] at triedOnce
    change session :: Diary.tried (before ++ _ :: after) = _ at triedOnce
    rw [Diary.tried_append, List.cons_inj_right, List.append_eq_nil_iff] at triedOnce
    change (session :: Diary.tried before).getLast? = some session
    rw [triedOnce.1]
    rfl

end Attempted

namespace Tries

variable {verdict : Verdict} (tries : Tries settings task session part verdict last)
include tries

theorem begins_nothing (operation : Operation) : ⟨.begins operation, ()⟩ ∉ part := by
  cases tries with
  | once attempt => exact attempt.begins_nothing operation
  | unrecovered attempt =>
    intro member
    rcases List.mem_append.mp member with member | member
    · exact attempt.begins_nothing operation member
    · cases List.mem_singleton.mp member
  | again attempt _ _ retry =>
    intro member
    rcases List.mem_append.mp member with member | member
    · exact attempt.begins_nothing operation member
    · rcases List.mem_cons.mp member with same | member
      · cases same
      · exact retry.begins_nothing operation member

theorem tried_at_most_twice : part.tried.length ≤ 2 := by
  cases tries with
  | once attempt =>
    rw [attempt.tried]
    exact Nat.le_succ 1
  | unrecovered attempt =>
    rw [Diary.tried_append, attempt.tried]
    exact Nat.le_succ 1
  | @again part rest _ _ _ attempt _ _ retry =>
    have recovered : Diary.tried (⟨.asks (.recover session), (some last : Option SessionHandle)⟩ ::
        rest) = rest.tried := rfl
    rw [Diary.tried_append, recovered, attempt.tried, retry.tried]
    exact Nat.le_refl 2

/-- The session of the run afterwards is no older. -/
theorem since : session.Since last := by
  cases tries with
  | once | unrecovered => exact .inl rfl
  | again _ _ newer => exact .inr newer

theorem calls : part.Calls session := by
  have asking : ∀ answer : Option SessionHandle,
      Diary.Calls session [⟨.asks (.recover session), answer⟩] := by
    refine fun answer => .silent fun _ _ _ member => ?_
    cases List.mem_singleton.mp member
  cases tries with
  | once attempt => exact attempt.calls
  | unrecovered attempt => exact attempt.calls.append (asking none)
  | again attempt _ newer retry =>
    exact attempt.calls.append ((asking (some _)).append (retry.calls.mono (.inr newer)))

/-- A recovered session is a later one, and the one to go on with. -/
theorem recovered {before after : Diary} {stale handle : SessionHandle}
    (same : part = before ++ ⟨.asks (.recover stale), (some handle : Option SessionHandle)⟩ ::
      after) : stale.Precedes handle ∧ after.Calls handle ∧ last = handle := by
  cases tries with
  | once attempt =>
    subst same
    have member := List.mem_append_right before
      (List.mem_cons_self (a := ⟨.asks (.recover stale), some handle⟩) (l := after))
    exact absurd member (attempt.recovers_nothing stale (some handle))
  | unrecovered attempt =>
    obtain ⟨middle, rfl, onward⟩ := split_after (attempt.recovers_nothing stale (some handle)) same
    cases middle with
    | nil => cases onward
    | cons entry middle => cases middle <;> cases onward
  | again attempt _ newer retry =>
    obtain ⟨middle, rfl, onward⟩ := split_after (attempt.recovers_nothing stale (some handle)) same
    cases middle with
    | nil =>
      cases onward
      exact ⟨newer, retry.calls, rfl⟩
    | cons entry middle =>
      obtain ⟨_, rfl⟩ := List.cons.inj onward
      have member := List.mem_append_right middle
        (List.mem_cons_self (a := ⟨.asks (.recover stale), some handle⟩) (l := after))
      exact absurd member (retry.recovers_nothing stale (some handle))

end Tries

/-! ## What a whole diary says -/

namespace Diary

theorem isWork_of_isLeaving {request : Request} (leaving : request.isLeaving = true) :
    (Mark.asks request).isWork = false := by
  cases request <;> first | rfl | cases leaving

theorem Leaves.idle (leaves : diary.Leaves) : diary.Idle := by
  rintro before entry after rfl work
  obtain ⟨request, _, rfl, leaving⟩ :=
    leaves entry (List.mem_append_right before List.mem_cons_self)
  rw [isWork_of_isLeaving leaving] at work
  cases work

theorem idle_begins (operation : Operation) (diary : Diary) :
    Idle (⟨.begins operation, ()⟩ :: diary) := by
  intro before entry after same work
  cases before with
  | nil =>
    cases same
    cases work
  | cons first before =>
    cases same
    exact ⟨operation, List.mem_cons_self⟩

theorem Idle.cons {entry : Program.Entry Mark Mark.Answer} (other : entry.request.isWork = false)
    (idle : diary.Idle) : Idle (entry :: diary) := by
  intro before later after same work
  cases before with
  | nil =>
    cases same
    rw [other] at work
    cases work
  | cons first before =>
    obtain ⟨rfl, rfl⟩ := List.cons.inj same
    obtain ⟨operation, begun⟩ := idle before later after rfl work
    exact ⟨operation, List.mem_cons_of_mem _ begun⟩

end Diary

namespace Spans

variable {ending : Option (Place × Verdict)}

theorem idle (spans : Spans settings session diary ending last) : diary.Idle := by
  induction spans with
  | rests =>
    intro before entry after same
    cases before <;> cases same
  | asks other _ induction => exact induction.cons other
  | works | ends => exact Diary.idle_begins _ _

theorem calls (spans : Spans settings session diary ending last) : diary.Calls session := by
  induction spans with
  | rests => exact .silent fun _ _ _ => List.not_mem_nil
  | asks other _ induction =>
    refine induction.cons fun called call answer same => ?_
    cases same
    cases other
  | works tries _ induction =>
    exact (tries.calls.append (induction.mono tries.since)).cons fun _ _ _ same => by cases same
  | ends tries _ leaves =>
    exact (tries.calls.append leaves.calls).cons fun _ _ _ same => by cases same

/-- A recovered session is a later one, and from then on every page call is made on it or on a
session later than it. -/
theorem recovered (spans : Spans settings session diary ending last) {before after : Diary}
    {stale handle : SessionHandle}
    (same : diary = before ++ ⟨.asks (.recover stale), (some handle : Option SessionHandle)⟩ ::
      after) : stale.Precedes handle ∧ after.Calls handle := by
  induction spans generalizing before with
  | rests => cases before <;> cases same
  | asks other _ induction =>
    cases before with
    | nil =>
      cases same
      cases other
    | cons entry before => exact induction (List.cons.inj same).2
  | works tries rest induction =>
    cases before with
    | nil => cases same
    | cons entry before =>
      rcases split_cons (List.cons.inj same).2 with ⟨middle, here, rfl⟩ | ⟨middle, _, here⟩
      · obtain ⟨newer, calls, rfl⟩ := tries.recovered here
        exact ⟨newer, calls.append rest.calls⟩
      · exact induction here
  | ends tries undone leaves =>
    cases before with
    | nil => cases same
    | cons entry before =>
      rcases split_cons (List.cons.inj same).2 with ⟨middle, here, rfl⟩ | ⟨middle, _, rfl⟩
      · obtain ⟨newer, calls, rfl⟩ := tries.recovered here
        exact ⟨newer, calls.append leaves.calls⟩
      · obtain ⟨_, _, same, leaving⟩ :=
          leaves _ (List.mem_append_right middle List.mem_cons_self)
        cases same
        cases leaving

/-- Every operation is tried as it is to be, nothing more is done for it, and unless it is done the
run leaves. -/
theorem begun (spans : Spans settings session diary ending last) {before rest : Diary}
    {operation : Operation} (same : diary = before ++ ⟨.begins operation, ()⟩ :: rest) :
    ∃ first part verdict next later, rest = part ++ later ∧
      Tries settings operation.task first part verdict next ∧ later.Idle ∧
      (verdict = .done ∨ later.Leaves ∧ ending = some (operation.place, verdict)) := by
  induction spans generalizing before with
  | rests => cases before <;> cases same
  | asks other _ induction =>
    cases before with
    | nil => cases same
    | cons entry before => exact induction (List.cons.inj same).2
  | works tries further induction =>
    cases before with
    | nil =>
      cases same
      exact ⟨_, _, _, _, _, rfl, tries, further.idle, .inl rfl⟩
    | cons entry before =>
      obtain ⟨middle, _, here⟩ :=
        split_after (tries.begins_nothing operation) (List.cons.inj same).2
      exact induction here
  | ends tries undone leaves =>
    cases before with
    | nil =>
      cases same
      exact ⟨_, _, _, _, _, rfl, tries, leaves.idle, .inr ⟨leaves, rfl⟩⟩
    | cons entry before =>
      obtain ⟨middle, _, rfl⟩ :=
        split_after (tries.begins_nothing operation) (List.cons.inj same).2
      obtain ⟨_, _, same, _⟩ := leaves _ (List.mem_append_right middle List.mem_cons_self)
      cases same

end Spans

end BrowserScript.Run

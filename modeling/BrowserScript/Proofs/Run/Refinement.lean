import BrowserScript.Proofs.Run.Course

/-!
# The interpreter and the tree

Undisturbed, the interpreter of scripts does exactly what the tree of steps says, at every place of
the tree and for a whole script. Main results: `Run.runStep_takes`, `Run.runSteps_takes`.
-/

set_option autoImplicit false

namespace BrowserScript.Run

open Running

variable {stage : Stage} {place : Place} {timeout : Nat} {action : Action} {log : Log} {count : Nat}
  {outcome : Except RunError Unit}

/-! ## The rules as courses -/

theorem stepRuns_iff {path : StepPath} {condition : Option Condition} {loop : Option Loop}
    {timeoutMs : Option UInt64} {source : Json} :
    StepRuns stage path (.mk action condition loop timeoutMs source) log count outcome ↔
      (stage.check ⟨path, action.kind⟩ condition).andThen (fun met =>
        if met then
          Course.andThen
            (BodiesRun stage ⟨path, action.kind⟩ (limit stage.context timeoutMs) action loop)
            fun _ => .only () (stage.reported ⟨path, action.kind⟩) 1
        else .only () [] 0) log count outcome := by
  constructor
  · intro run
    cases run with
    | unchecked check => exact .inl ⟨_, ⟨rfl, check⟩, rfl⟩
    | skipped check =>
      exact .inr ⟨false, _, [], 0, 0, ⟨rfl, check⟩, ⟨rfl, rfl, rfl⟩, (List.append_nil _).symm, rfl⟩
    | failed check body =>
      exact .inr ⟨true, _, _, 0, _, ⟨rfl, check⟩, .inl ⟨_, body, rfl⟩, rfl, (Nat.zero_add _).symm⟩
    | completed check body =>
      exact .inr ⟨true, _, _, 0, _, ⟨rfl, check⟩, .inr ⟨(), _, _, _, 1, body, ⟨rfl, rfl, rfl⟩, rfl,
        rfl⟩, rfl, (Nat.zero_add _).symm⟩
  · rintro (⟨error, ⟨rfl, check⟩, rfl⟩ |
      ⟨met, opening, rest, _, late, ⟨rfl, check⟩, further, rfl, rfl⟩)
    · exact .unchecked check
    · rw [Nat.zero_add]
      cases met with
      | false =>
        obtain ⟨rfl, rfl, rfl⟩ := further
        rw [List.append_nil]
        exact .skipped check
      | true =>
        rcases further with
          ⟨error, body, rfl⟩ | ⟨_, bodies, _, completed, _, body, ⟨rfl, rfl, rfl⟩, rfl, rfl⟩
        · exact .failed check body
        · exact .completed check body

theorem iterationsRun_zero_iff {loop : Loop} {first : Bool} :
    IterationsRun stage place timeout action loop 0 first log count outcome ↔
      Course.only () [] 0 log count outcome := by
  constructor
  · rintro ⟨⟩
    exact ⟨rfl, rfl, rfl⟩
  · rintro ⟨rfl, rfl, rfl⟩
    exact .over

theorem iterationsRun_succ_iff {loop : Loop} {left : Nat} {first : Bool} :
    IterationsRun stage place timeout action loop (left + 1) first log count outcome ↔
      (Course.only () (between loop first) 0).andThen (fun _ =>
        (stage.check place loop.condition).andThen fun met =>
          if met then
            Course.andThen (BodyRuns stage place timeout action) fun _ =>
              IterationsRun stage place timeout action loop left false
          else .only () [] 0) log count outcome := by
  rw [Course.only_andThen]
  constructor
  · intro run
    cases run with
    | unchecked check => exact ⟨_, 0, .inl ⟨_, ⟨rfl, check⟩, rfl⟩, rfl, rfl⟩
    | ended check =>
      exact ⟨_, 0, .inr ⟨false, _, [], 0, 0, ⟨rfl, check⟩, ⟨rfl, rfl, rfl⟩,
        (List.append_nil _).symm, rfl⟩, rfl, rfl⟩
    | failed check run =>
      exact ⟨_, _, .inr ⟨true, _, _, 0, _, ⟨rfl, check⟩, .inl ⟨_, run, rfl⟩, rfl, rfl⟩, rfl,
        by rw [Nat.zero_add, Nat.zero_add]⟩
    | again check run further =>
      exact ⟨_, _, .inr ⟨true, _, _, 0, _, ⟨rfl, check⟩, .inr ⟨(), _, _, _, _, run, further, rfl,
        rfl⟩, rfl, rfl⟩, rfl, by rw [Nat.zero_add, Nat.zero_add]⟩
  · rintro ⟨_, _, (⟨error, ⟨rfl, check⟩, rfl⟩ |
      ⟨met, opening, rest, _, late, ⟨rfl, check⟩, further, rfl, rfl⟩), rfl, rfl⟩
    · exact .unchecked check
    · rw [Nat.zero_add, Nat.zero_add]
      cases met with
      | false =>
        obtain ⟨rfl, rfl, rfl⟩ := further
        rw [List.append_nil]
        exact .ended check
      | true =>
        rcases further with ⟨error, run, rfl⟩ | ⟨_, _, _, _, _, run, further, rfl, rfl⟩
        · exact .failed check run
        · exact .again check run further

theorem childrenRun_nil_iff {path : StepPath} {index : Nat} :
    ChildrenRun stage path index [] log count outcome ↔
      Course.only () [] 0 log count outcome := by
  constructor
  · rintro ⟨⟩
    exact ⟨rfl, rfl, rfl⟩
  · rintro ⟨rfl, rfl, rfl⟩
    exact .over

theorem childrenRun_cons_iff {path : StepPath} {index : Nat} {child : Step} {rest : List Step} :
    ChildrenRun stage path index (child :: rest) log count outcome ↔
      Course.andThen (StepRuns stage (path ++ [index]) child)
        (fun _ => ChildrenRun stage path (index + 1) rest) log count outcome := by
  constructor
  · intro run
    cases run with
    | failed run => exact .inl ⟨_, run, rfl⟩
    | next run further => exact .inr ⟨(), _, _, _, _, run, further, rfl, rfl⟩
  · rintro (⟨error, run, rfl⟩ | ⟨_, _, _, _, _, run, further, rfl, rfl⟩)
    · exact .failed run
    · exact .next run further

theorem bodyRuns_nested_iff {children : List Step} :
    BodyRuns stage place timeout (.steps children) log count outcome ↔
      ChildrenRun stage place.path 0 children log count outcome := by
  constructor
  · intro run
    cases run with
    | single leaf _ => exact absurd rfl (leaf children)
    | nested run => exact run
  · exact .nested

theorem bodyRuns_single_iff (leaf : ∀ children, action ≠ .steps children) :
    BodyRuns stage place timeout action log count outcome ↔
      count = 0 ∧ ∃ result, Program.Transcript
        (perform stage.context.settings stage.session timeout action).run log result ∧
          outcome = result.mapError (stage.failure place) := by
  constructor
  · intro run
    cases run with
    | single _ run => exact ⟨rfl, _, run, rfl⟩
    | nested run => exact absurd rfl (leaf _)
  · rintro ⟨rfl, result, run, rfl⟩
    exact .single leaf run

theorem bodiesRun_once_iff :
    BodiesRun stage place timeout action none log count outcome ↔
      BodyRuns stage place timeout action log count outcome := by
  constructor
  · rintro ⟨⟩
    assumption
  · exact .once

theorem bodiesRun_repeated_iff {loop : Loop} :
    BodiesRun stage place timeout action (some loop) log count outcome ↔
      IterationsRun stage place timeout action loop loop.iterations.toNat true log count
        outcome := by
  constructor
  · rintro ⟨⟩
    assumption
  · exact .repeated

/-! ## The interpreter step by step -/

/-- The bodies of a step in the interpreter. -/
def runBodies (context : RunContext) (place : Place) (timeout : Nat) (action : Action) :
    Option Loop → Running Unit
  | none => runAction context place timeout action
  | some loop =>
    iterate context place loop (runAction context place timeout action) loop.iterations.toNat true

theorem runStep_eq (context : RunContext) (path : StepPath) (action : Action)
    (condition : Option Condition) (loop : Option Loop) (timeoutMs : Option UInt64)
    (source : Json) :
    runStep context path (.mk action condition loop timeoutMs source) = (do
      if ← meets context ⟨path, action.kind⟩ condition then
        runBodies context ⟨path, action.kind⟩ (limit context timeoutMs) action loop
        completed context ⟨path, action.kind⟩) := by
  unfold runStep runBodies
  cases loop <;> rfl

/-- The pause before an iteration in the interpreter. -/
def pauseBefore (loop : Loop) (first : Bool) : Running Unit :=
  if !first && loop.waitBetweenMs ≠ 0 then ask (sleep loop.waitBetweenMs.toNat) else return ()

theorem iterate_succ_eq (context : RunContext) (place : Place) (loop : Loop) (body : Running Unit)
    (left : Nat) (first : Bool) :
    iterate context place loop body (left + 1) first = (do
      pauseBefore loop first
      checkWanted
      if ← meets context place loop.condition then
        body
        iterate context place loop body left false) := by
  rw [iterate, pauseBefore]
  split
  · rfl
  · rw [pure_bind]

theorem pauseBefore_takes (loop : Loop) (first : Bool) :
    Takes stage (pauseBefore loop first) (.only () (between loop first) 0) := by
  unfold pauseBefore between
  cases first with
  | true => exact Takes.pure ()
  | false =>
    by_cases isPause : loop.waitBetweenMs = 0
    · simp only [isPause, pause]
      exact Takes.pure ()
    · simp only [isPause, Bool.not_false, ne_eq, not_false_eq_true, decide_true, Bool.and_self,
        if_true, Bool.false_eq_true, if_false]
      exact pause_takes isPause

/-- A loop over a body that takes its course takes the course of the iterations. -/
theorem iterate_takes (loop : Loop) {body : Running Unit}
    (takes : Takes stage body (BodyRuns stage place timeout action)) (left : Nat) (first : Bool) :
    Takes stage (iterate stage.context place loop body left first)
      (IterationsRun stage place timeout action loop left first) := by
  induction left generalizing first with
  | zero => exact (Takes.pure ()).congr fun _ _ _ => iterationsRun_zero_iff.symm
  | succ left induction =>
    rw [iterate_succ_eq]
    have checked : Takes stage (do
        if ← meets stage.context place loop.condition then
          body
          iterate stage.context place loop body left false)
        ((stage.check place loop.condition).andThen fun met =>
          if met then
            Course.andThen (BodyRuns stage place timeout action) fun _ =>
              IterationsRun stage place timeout action loop left false
          else .only () [] 0) := by
      refine (meets_takes place loop.condition).bind fun met => ?_
      cases met with
      | true => exact takes.bind fun _ => induction false
      | false => exact Takes.pure ()
    have unseen : Takes stage (do
        checkWanted
        if ← meets stage.context place loop.condition then
          body
          iterate stage.context place loop body left false) _ :=
      (checkWanted_takes.bind fun _ => checked).congr fun _ _ _ => Course.idle_andThen
    exact ((pauseBefore_takes loop first).bind fun _ => unseen).congr fun _ _ _ =>
      iterationsRun_succ_iff.symm

theorem runBodies_takes (loop : Option Loop)
    (takes : Takes stage (runAction stage.context place timeout action)
      (BodyRuns stage place timeout action)) :
    Takes stage (runBodies stage.context place timeout action loop)
      (BodiesRun stage place timeout action loop) := by
  cases loop with
  | none => exact takes.congr fun _ _ _ => bodiesRun_once_iff.symm
  | some loop =>
    exact (iterate_takes loop takes loop.iterations.toNat true).congr fun _ _ _ =>
      bodiesRun_repeated_iff.symm

/-- An action that is not made of nested steps is tried on the session. -/
theorem runAction_single_eq (context : RunContext) (place : Place) (timeout : Nat)
    (leaf : ∀ children, action ≠ .steps children) :
    runAction context place timeout action =
      guarded place fun session => perform context.settings session timeout action := by
  cases action with
  | steps children => exact absurd rfl (leaf children)
  | _ => rfl

theorem runAction_single_takes (leaf : ∀ children, action ≠ .steps children) :
    Takes stage (runAction stage.context place timeout action)
      (BodyRuns stage place timeout action) := by
  rw [runAction_single_eq stage.context place timeout leaf]
  exact (guarded_takes _ (perform_plain _ stage.session timeout action)).congr fun _ _ _ =>
    (bodyRuns_single_iff leaf).symm

mutual

/-- Undisturbed, a step runs as the tree says. -/
theorem runStep_takes (stage : Stage) (path : StepPath) :
    (step : Step) → Takes stage (runStep stage.context path step) (StepRuns stage path step)
  | .mk action condition loop timeoutMs source => by
    have body := runBodies_takes loop
      (runAction_takes stage ⟨path, action.kind⟩ (limit stage.context timeoutMs) action)
    rw [runStep_eq]
    refine ((meets_takes ⟨path, action.kind⟩ condition).bind fun met => ?_).congr fun _ _ _ =>
      stepRuns_iff.symm
    cases met with
    | true => exact body.bind fun _ => completed_takes ⟨path, action.kind⟩
    | false => exact Takes.pure ()

theorem runAction_takes (stage : Stage) (place : Place) (timeout : Nat) :
    (action : Action) → Takes stage (runAction stage.context place timeout action)
      (BodyRuns stage place timeout action)
  | .steps children =>
    (runChildren_takes stage place.path 0 children).congr fun _ _ _ => bodyRuns_nested_iff.symm
  | .navigate _ | .click _ | .type _ _ | .hover _ | .scroll _ | .waitForElement _ _
  | .waitForExpression _ | .setViewport _ | .key _ _ =>
    runAction_single_takes fun _ same => by cases same

theorem runChildren_takes (stage : Stage) (path : StepPath) (index : Nat) :
    (children : List Step) → Takes stage (runChildren stage.context path index children)
      (ChildrenRun stage path index children)
  | [] => (Takes.pure ()).congr fun _ _ _ => childrenRun_nil_iff.symm
  | child :: rest => by
    have first := runStep_takes stage (path ++ [index]) child
    have others := runChildren_takes stage path (index + 1) rest
    have unseen : Takes stage (runChildren stage.context path index (child :: rest)) _ :=
      checkWanted_takes.bind fun _ => first.bind fun _ => others
    exact unseen.congr fun _ _ _ => Course.idle_andThen.trans childrenRun_cons_iff.symm

end

/-! ## Top-level steps -/

/-- The pause after a top-level step in the interpreter. -/
def pauseAfter (settings : Settings) (rest : List Step) : Running Unit :=
  if settings.stepDelayMs ≠ 0 && !rest.isEmpty then ask (sleep settings.stepDelayMs.toNat)
  else return ()

theorem pauseAfter_takes (settings : Settings) (rest : List Step) :
    Takes stage (pauseAfter settings rest) (.only () (rested settings rest) 0) := by
  unfold pauseAfter rested
  cases rest with
  | nil =>
    rw [List.isEmpty_nil, Bool.not_true, Bool.and_false]
    exact Takes.pure ()
  | cons next others =>
    by_cases isPause : settings.stepDelayMs = 0
    · simp only [isPause, pause]
      exact Takes.pure ()
    · simp only [isPause, List.isEmpty_cons, Bool.not_false, ne_eq, not_false_eq_true, decide_true,
        Bool.and_self, if_true, Bool.false_eq_true, if_false]
      exact pause_takes isPause

/-- A top-level step that is still wanted, and those after it. -/
def runFrom (context : RunContext) (index : Nat) (step : Step) (rest : List Step) :
    Running Unit :=
  match (step.fill context.vars).1 with
  | .error error => stepFailed ⟨[index], step.kind⟩ (.invalid error.message)
  | .ok filled => do
    runStep context [index] filled
    pauseAfter context.settings rest
    runSteps context (index + 1) rest

theorem runSteps_cons_eq (context : RunContext) (index : Nat) (step : Step) (rest : List Step) :
    runSteps context index (step :: rest) = (do
      if ← ask isCancelled then throw (.cancelled index)
      modify fun state => { state with index }
      runFrom context index step rest) := by
  rw [runSteps]
  congr 1
  funext wanted
  have same : (match (step.fill context.vars).1 with
      | .error error => stepFailed ⟨[index], step.kind⟩ (.invalid error.message)
      | .ok filled => do
        runStep context [index] filled
        if context.settings.stepDelayMs ≠ 0 && !rest.isEmpty then
          ask (sleep context.settings.stepDelayMs.toNat)
        runSteps context (index + 1) rest) = runFrom context index step rest := by
    unfold runFrom pauseAfter
    split
    · rfl
    · congr 1
      funext _
      split
      · rfl
      · rw [pure_bind]
  exact same ▸ rfl

/-- A wanted run goes on unseen with its next top-level step. -/
theorem runSteps_cons_seen {context : RunContext} {index : Nat} {step : Step} {rest : List Step}
    {before after : RunState} {trace : Log} :
    Seen (runSteps context index (step :: rest)) before trace outcome after ↔
      Seen (runFrom context index step rest) { before with index } trace outcome after := by
  rw [runSteps_cons_eq]
  constructor
  · rintro ⟨log, undisturbed, rfl, run⟩
    obtain ⟨wanted, _, later, asked, finish, rfl⟩ := Goes.ask_bind_iff.mp run
    obtain rfl := Program.Transcript.request_iff.mp asked
    obtain rfl : wanted = false := undisturbed _ (.head _)
    exact ⟨later, fun entry member => undisturbed entry (.tail _ member), rfl,
      Goes.modify_bind_iff.mp finish⟩
  · rintro ⟨later, undisturbed, rfl, run⟩
    refine ⟨⟨.isCancelled, false⟩ :: later, ?_, rfl, Goes.ask_bind_iff.mpr ⟨false, _, later,
      Program.Transcript.request_iff.mpr rfl, Goes.modify_bind_iff.mpr run, rfl⟩⟩
    intro entry member
    rcases List.mem_cons.mp member with rfl | member
    · rfl
    · exact undisturbed entry member

theorem failed_seen {place : Place} {cause : StepFailure} {before after : RunState} {trace : Log} :
    Seen (stepFailed place cause : Running Unit) before trace outcome after ↔
      trace = [] ∧ outcome = .error (.stepFailed before.index place.path.text place.kind cause) ∧
        after = before := by
  constructor
  · rintro ⟨log, _, rfl, run⟩
    obtain ⟨rfl, rfl, rfl⟩ := failed_goes.mp run
    exact ⟨rfl, rfl, rfl⟩
  · rintro ⟨rfl, rfl, rfl⟩
    exact ⟨[], fun _ member => absurd member List.not_mem_nil, rfl,
      failed_goes.mpr ⟨rfl, rfl, rfl⟩⟩

/-- Undisturbed, the top-level steps run as the tree says. -/
theorem runSteps_seen (context : RunContext) (steps : List Step) (index : Nat)
    (before : RunState) (trace : Log) (outcome : Except RunError Unit) (executed : Nat) :
    (∃ after, Seen (runSteps context index steps) before trace outcome after ∧
        after.executed = executed) ↔
      ∃ count, Undisturbed trace ∧
        StepsRun context before.session.sessionId index steps trace count outcome ∧
          executed = before.executed + count := by
  induction steps generalizing index before trace executed with
  | nil =>
    have idle : Takes ⟨context, before.session.sessionId, before.index⟩ _ _ := Takes.pure ()
    constructor
    · rintro ⟨after, seen, rfl⟩
      obtain ⟨_, calm, ⟨rfl, rfl, rfl⟩, rfl⟩ := (idle before _ _ after ⟨rfl, rfl⟩).mp seen
      exact ⟨0, calm, .over, rfl⟩
    · rintro ⟨count, calm, run, rfl⟩
      cases run
      exact ⟨_, (idle before _ _ _ ⟨rfl, rfl⟩).mpr ⟨0, calm, ⟨rfl, rfl, rfl⟩, rfl⟩, rfl⟩
  | cons step rest induction =>
    simp only [runSteps_cons_seen]
    cases fills : (step.fill context.vars).1 with
    | error error =>
      simp only [runFrom, fills, failed_seen]
      constructor
      · rintro ⟨after, ⟨rfl, rfl, rfl⟩, rfl⟩
        exact ⟨0, fun _ member => absurd member List.not_mem_nil, .unfilled fills, rfl⟩
      · rintro ⟨count, _, run, rfl⟩
        cases run with
        | unfilled filled =>
          cases fills.symm.trans filled
          exact ⟨_, ⟨rfl, rfl, rfl⟩, rfl⟩
        | failed filled | next filled => cases fills.symm.trans filled
    | ok filled =>
      let stage : Stage := ⟨context, before.session.sessionId, index⟩
      let entered : RunState := { before with index }
      have first : Takes stage _ _ := runStep_takes stage [index] filled
      have pauses : Takes stage _ _ := pauseAfter_takes context.settings rest
      have enters : stage.Holds entered := ⟨rfl, rfl⟩
      have remains : ∀ count, stage.Holds (more entered count) := fun _ => ⟨rfl, rfl⟩
      simp only [runFrom, fills]
      constructor
      · rintro ⟨after, seen, rfl⟩
        rcases (first.seen_bind enters).mp seen with ⟨error, count, calm, run, rfl, rfl⟩ |
          ⟨_, opening, _, count, calm, run, onward, rfl⟩
        · exact ⟨count, calm, .failed fills run, rfl⟩
        · rcases (pauses.seen_bind (remains count)).mp onward with ⟨_, _, _, ⟨_, _, same⟩, _⟩ |
            ⟨_, _, later, _, calmer, ⟨rfl, rfl, _⟩, last, rfl⟩
          · cases same
          · obtain ⟨others, still, further, same⟩ :=
              (induction (index + 1) _ later after.executed).mp ⟨after, last, rfl⟩
            exact ⟨count + others, undisturbed_append.mpr
              ⟨calm, undisturbed_append.mpr ⟨calmer, still⟩⟩, .next fills run further,
              same.trans (Nat.add_assoc before.executed count others)⟩
      · rintro ⟨count, calm, run, rfl⟩
        cases run with
        | unfilled filled => cases fills.symm.trans filled
        | failed filled run =>
          cases fills.symm.trans filled
          exact ⟨_, (first.seen_bind enters).mpr (.inl ⟨_, count, calm, run, rfl, rfl⟩), rfl⟩
        | @next _ _ _ _ opening later early late _ filled run further =>
          cases fills.symm.trans filled
          obtain ⟨calmEarly, calmer⟩ := undisturbed_append.mp calm
          obtain ⟨calmPause, calmLate⟩ := undisturbed_append.mp calmer
          obtain ⟨after, seen, same⟩ := (induction (index + 1)
            (more entered early) later (before.executed + (early + late))).mpr
            ⟨late, calmLate, further, (Nat.add_assoc _ _ _).symm⟩
          refine ⟨after, (first.seen_bind enters).mpr (.inr ⟨(), opening, _, early, calmEarly,
            run, ?_, rfl⟩), same⟩
          exact (pauses.seen_bind (remains early)).mpr (.inr ⟨(), _, later, 0, calmPause,
            ⟨rfl, rfl, rfl⟩, seen, rfl⟩)

end BrowserScript.Run

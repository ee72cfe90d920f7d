import BrowserScript.Proofs.Run.Refinement

/-!
# Counting steps

Whatever a run is answered, and however it ends, the steps it has counted are those it has reported.
Main definition: `Run.Tallied`. Main result: `Run.runSteps_tallied`.
-/

set_option autoImplicit false

namespace BrowserScript.Run

open Running

variable {α β : Type}

theorem progressEvents_append (before after : Log) :
    progressEvents (before ++ after) = progressEvents before ++ progressEvents after :=
  List.filterMap_append

/-- A program that reports no progress. -/
def Silent (program : RunProgram α) : Prop :=
  ∀ log result, Program.Transcript program log result → progressEvents log = []

theorem Silent.request (request : Request)
    (other : ∀ answer, progressOf ⟨request, answer⟩ = none) :
    Silent (Program.request request) := by
  intro log answer run
  obtain rfl := Program.Transcript.request_iff.mp run
  exact List.filterMap_cons_none (other answer)

theorem Local.silent {gone : α → Prop} {program : RunProgram α} (stepwise : Local gone program) :
    Silent program := by
  intro log result run
  refine List.filterMap_eq_nil_iff.mpr fun entry member => ?_
  obtain ⟨request, answer⟩ := entry
  have asks := (stepwise log result run).1 _ member
  cases request <;> first | rfl | cases asks

/-- A piece of a run that counts as many steps as it reports. -/
def Tallied (piece : Running α) : Prop :=
  ∀ before log outcome after, Goes piece before log outcome after →
    after.executed = before.executed + (progressEvents log).length

namespace Tallied

theorem pure (value : α) : Tallied (Pure.pure value) := by
  intro before log outcome after run
  obtain ⟨rfl, _, rfl⟩ := Goes.pure_iff.mp run
  rfl

theorem throw (error : RunError) : Tallied (throw error : Running α) := by
  intro before log outcome after run
  obtain ⟨rfl, _, rfl⟩ := Goes.throw_iff.mp run
  rfl

theorem ask {program : RunProgram α} (silent : Silent program) : Tallied (ask program) := by
  intro before log outcome after run
  obtain ⟨value, asked, _, rfl⟩ := Goes.ask_iff.mp run
  rw [silent log value asked]
  rfl

theorem bind {first : Running α} {next : α → Running β} (start : Tallied first)
    (rest : ∀ value, Tallied (next value)) : Tallied (first >>= next) := by
  intro before log outcome after run
  rcases Goes.bind_iff.mp run with
    ⟨error, failed, _⟩ | ⟨value, middle, opening, closing, early, late, rfl⟩
  · exact start before log _ after failed
  · rw [rest value middle closing outcome after late, start before opening _ middle early,
      progressEvents_append, List.length_append, Nat.add_assoc]

theorem get_bind {next : RunState → Running β} (rest : ∀ state, Tallied (next state)) :
    Tallied (get >>= next) := fun before log outcome after run =>
  rest before before log outcome after (Goes.get_bind_iff.mp run)

/-- What does not touch the count may change in between. -/
theorem modify_bind {change : RunState → RunState} {next : PUnit → Running β}
    (keeps : ∀ state, (change state).executed = state.executed) (rest : Tallied (next ⟨⟩)) :
    Tallied (modify change >>= next) := by
  intro before log outcome after run
  rw [rest (change before) log outcome after (Goes.modify_bind_iff.mp run), keeps before]

end Tallied

theorem stepFailed_tallied (place : Place) (cause : StepFailure) :
    Tallied (stepFailed place cause : Running α) :=
  Tallied.get_bind fun _ => Tallied.throw _

theorem sessionLost_tallied (place : Place) : Tallied (sessionLost place : Running α) :=
  Tallied.get_bind fun _ => Tallied.throw _

/-- However often it is tried, an operation counts nothing and reports nothing. -/
theorem guarded_tallied (place : Place) {operation : String → StepProgram α}
    (plain : ∀ session, Plain (operation session)) : Tallied (guarded place operation) := by
  refine Tallied.get_bind fun state => ?_
  refine (Tallied.ask (plain _).silent).bind fun result => ?_
  cases result with
  | ok value => exact Tallied.pure value
  | error failure =>
    dsimp only
    split
    · refine Tallied.get_bind fun state => ?_
      refine (Tallied.ask (Silent.request (.recover _) fun _ => rfl)).bind fun recovered => ?_
      cases recovered with
      | none => exact sessionLost_tallied place
      | some session =>
        refine Tallied.modify_bind (fun _ => rfl) ?_
        refine (Tallied.ask (plain _).silent).bind fun result => ?_
        cases result with
        | ok value => exact Tallied.pure value
        | error failure =>
          dsimp only
          split
          · exact sessionLost_tallied place
          · exact stepFailed_tallied place failure
    · exact stepFailed_tallied place failure

theorem checkWanted_tallied : Tallied checkWanted := by
  refine (Tallied.ask (Silent.request .isCancelled fun _ => rfl)).bind fun wanted => ?_
  split
  · exact Tallied.get_bind fun _ => Tallied.throw _
  · exact Tallied.pure ()

theorem meets_tallied (context : RunContext) (place : Place) (condition : Option Condition) :
    Tallied (meets context place condition) := by
  cases condition with
  | none => exact Tallied.pure true
  | some condition => exact guarded_tallied place fun session => holds_plain _ session condition

theorem pause_tallied (ms : Nat) : Tallied (ask (sleep ms)) :=
  Tallied.ask (sleep_local ms).silent

/-- A completed step is counted once and reported once. -/
theorem completed_tallied (context : RunContext) (place : Place) :
    Tallied (completed context place) := by
  intro before log outcome after run
  unfold completed at run
  rw [Goes.modify_bind_iff, Goes.get_bind_iff, Goes.ask_iff] at run
  obtain ⟨_, asked, _, rfl⟩ := run
  obtain rfl := Program.Transcript.request_iff.mp asked
  rfl

theorem iterate_tallied (context : RunContext) (place : Place) (loop : Loop) {body : Running Unit}
    (tallied : Tallied body) (left : Nat) (first : Bool) :
    Tallied (iterate context place loop body left first) := by
  induction left generalizing first with
  | zero => exact Tallied.pure ()
  | succ left induction =>
    rw [iterate_succ_eq, pauseBefore]
    refine Tallied.bind ?_ fun _ => checkWanted_tallied.bind fun _ =>
      (meets_tallied context place loop.condition).bind fun met => ?_
    · split
      · exact pause_tallied _
      · exact Tallied.pure ()
    · split
      · exact tallied.bind fun _ => induction false
      · exact Tallied.pure ()

theorem runBodies_tallied {context : RunContext} {place : Place} {timeout : Nat} {action : Action}
    (loop : Option Loop) (tallied : Tallied (runAction context place timeout action)) :
    Tallied (runBodies context place timeout action loop) := by
  cases loop with
  | none => exact tallied
  | some loop => exact iterate_tallied context place loop tallied loop.iterations.toNat true

theorem runAction_single_tallied {action : Action} (context : RunContext) (place : Place)
    (timeout : Nat) (leaf : ∀ children, action ≠ .steps children) :
    Tallied (runAction context place timeout action) := by
  rw [runAction_single_eq context place timeout leaf]
  exact guarded_tallied place fun session => perform_plain _ session timeout action

mutual

theorem runStep_tallied (context : RunContext) (path : StepPath) :
    (step : Step) → Tallied (runStep context path step)
  | .mk action condition loop timeoutMs source => by
    have body := runBodies_tallied loop
      (runAction_tallied context ⟨path, action.kind⟩ (limit context timeoutMs) action)
    rw [runStep_eq]
    refine (meets_tallied context ⟨path, action.kind⟩ condition).bind fun met => ?_
    split
    · exact body.bind fun _ => completed_tallied context ⟨path, action.kind⟩
    · exact Tallied.pure ()

theorem runAction_tallied (context : RunContext) (place : Place) (timeout : Nat) :
    (action : Action) → Tallied (runAction context place timeout action)
  | .steps children => runChildren_tallied context place.path 0 children
  | .navigate _ | .click _ | .type _ _ | .hover _ | .scroll _ | .waitForElement _ _
  | .waitForExpression _ | .setViewport _ | .key _ _ =>
    runAction_single_tallied context place timeout fun _ same => by cases same

theorem runChildren_tallied (context : RunContext) (path : StepPath) (index : Nat) :
    (children : List Step) → Tallied (runChildren context path index children)
  | [] => Tallied.pure ()
  | child :: rest => by
    have first := runStep_tallied context (path ++ [index]) child
    have others := runChildren_tallied context path (index + 1) rest
    exact checkWanted_tallied.bind fun _ => first.bind fun _ => others

end

/-- The steps of a run are counted as they are reported, also when the run fails, is cancelled or
loses its session. -/
theorem runSteps_tallied (context : RunContext) (index : Nat) (steps : List Step) :
    Tallied (runSteps context index steps) := by
  induction steps generalizing index with
  | nil => exact Tallied.pure ()
  | cons step rest induction =>
    have entered : Tallied (do
        modify fun state => { state with index }
        runFrom context index step rest) := by
      refine Tallied.modify_bind (fun _ => rfl) ?_
      unfold runFrom
      split
      · exact stepFailed_tallied _ _
      · refine (runStep_tallied context [index] _).bind fun _ => Tallied.bind ?_ fun _ =>
          induction (index + 1)
        unfold pauseAfter
        split
        · exact pause_tallied _
        · exact Tallied.pure ()
    rw [runSteps_cons_eq]
    refine (Tallied.ask (Silent.request .isCancelled fun _ => rfl)).bind fun wanted => ?_
    cases wanted with
    | true => exact (Tallied.throw _).bind fun _ => entered
    | false => exact entered

end BrowserScript.Run

import BrowserScript.Proofs.Run.Refinement

/-!
# Properties of the pieces of a run

What goes together with the few ways in which a run is put together from its pieces holds of all its
steps, however deep they are nested. Main definition: `Run.Closed`. Main result:
`Run.Closed.runSteps`.
-/

set_option autoImplicit false

namespace BrowserScript.Run

/-- A property that goes together with how a run is put together from its pieces. Of what touches
the session, it need only hold of whole attempts, with the recovery in between. -/
structure Closed (holds : ∀ {α : Type}, Running α → Prop) : Prop where
  pure : ∀ {α : Type} (value : α), holds (Pure.pure value : Running α)
  throw : ∀ {α : Type} (error : RunError), holds (throw error : Running α)
  bind : ∀ {α β : Type} {first : Running α} {next : α → Running β}, holds first →
    (∀ value, holds (next value)) → holds (first >>= next)
  get : holds (get : Running RunState)
  changes : ∀ change : RunState → RunState, (∀ state, (change state).session = state.session) →
    holds (modify change : Running PUnit)
  isCancelled : holds (ask isCancelled)
  sleep : ∀ ms, holds (ask (sleep ms))
  progress : ∀ event, holds (ask (progress event))
  guarded : ∀ {α : Type} (place : Place) (operation : String → StepProgram α),
    (∀ session, Bound session (operation session)) → holds (guarded place operation)

namespace Closed

variable {holds : ∀ {α : Type}, Running α → Prop}

theorem stepFailed {α : Type} (closed : Closed holds) (place : Place) (cause : StepFailure) :
    holds (stepFailed place cause : Running α) :=
  closed.bind closed.get fun _ => closed.throw _

theorem checkWanted (closed : Closed holds) : holds checkWanted := by
  refine closed.bind closed.isCancelled fun stopped => ?_
  split
  · exact closed.bind closed.get fun _ => closed.throw _
  · exact closed.pure ()

theorem meets (closed : Closed holds) (context : RunContext) (place : Place)
    (condition : Option Condition) : holds (meets context place condition) := by
  cases condition with
  | none => exact closed.pure true
  | some condition =>
    exact closed.guarded place _ fun session =>
      holds_bound context.settings.pollInterval session condition

theorem pauseBefore (closed : Closed holds) (loop : Loop) (first : Bool) :
    holds (pauseBefore loop first) := by
  unfold Run.pauseBefore
  split
  · exact closed.sleep _
  · exact closed.pure ()

theorem pauseAfter (closed : Closed holds) (settings : Settings) (rest : List Step) :
    holds (pauseAfter settings rest) := by
  unfold Run.pauseAfter
  split
  · exact closed.sleep _
  · exact closed.pure ()

theorem completed (closed : Closed holds) (context : RunContext) (place : Place) :
    holds (completed context place) :=
  closed.bind (closed.changes _ fun _ => rfl) fun _ =>
    closed.bind closed.get fun _ => closed.progress _

theorem iterate (closed : Closed holds) (context : RunContext) (place : Place) (loop : Loop)
    {body : Running Unit} (once : holds body) (left : Nat) (first : Bool) :
    holds (iterate context place loop body left first) := by
  induction left generalizing first with
  | zero => exact closed.pure ()
  | succ left induction =>
    rw [iterate_succ_eq]
    refine closed.bind (closed.pauseBefore loop first) fun _ => ?_
    refine closed.bind closed.checkWanted fun _ => ?_
    refine closed.bind (closed.meets context place loop.condition) fun met => ?_
    split
    · exact closed.bind once fun _ => induction false
    · exact closed.pure ()

theorem runBodies (closed : Closed holds) {context : RunContext} {place : Place} {timeout : Nat}
    {action : Action} (loop : Option Loop) (once : holds (runAction context place timeout action)) :
    holds (runBodies context place timeout action loop) := by
  cases loop with
  | none => exact once
  | some loop => exact closed.iterate context place loop once loop.iterations.toNat true

mutual

theorem runStep (closed : Closed holds) (context : RunContext) (path : StepPath) :
    (step : Step) → holds (runStep context path step)
  | .mk action condition loop timeoutMs source => by
    have body := closed.runBodies loop
      (runAction closed context ⟨path, action.kind⟩ (limit context timeoutMs) action)
    rw [runStep_eq]
    refine closed.bind (closed.meets context ⟨path, action.kind⟩ condition) fun met => ?_
    split
    · exact closed.bind body fun _ => closed.completed context _
    · exact closed.pure ()

theorem runAction (closed : Closed holds) (context : RunContext) (place : Place) (timeout : Nat) :
    (action : Action) → holds (runAction context place timeout action)
  | .steps children => runChildren closed context place.path 0 children
  | .navigate _ | .click _ | .type _ _ | .hover _ | .scroll _ | .waitForElement _ _
  | .waitForExpression _ | .setViewport _ | .key _ _ => by
    rw [runAction_single_eq context place timeout fun _ same => by cases same]
    exact closed.guarded place _ fun session => perform_bound context.settings session timeout _

theorem runChildren (closed : Closed holds) (context : RunContext) (path : StepPath) (index : Nat) :
    (children : List Step) → holds (runChildren context path index children)
  | [] => closed.pure ()
  | child :: rest => by
    have first := runStep closed context (path ++ [index]) child
    have others := runChildren closed context path (index + 1) rest
    exact closed.bind closed.checkWanted fun _ => closed.bind first fun _ => others

end

/-- What goes together with how a run is put together holds of all steps of a run. -/
theorem runSteps (closed : Closed holds) (context : RunContext) (index : Nat) (steps : List Step) :
    holds (runSteps context index steps) := by
  induction steps generalizing index with
  | nil => exact closed.pure ()
  | cons step rest induction =>
    have entered : holds (do
        modify fun state => { state with index }
        runFrom context index step rest : Running Unit) := by
      refine closed.bind (closed.changes _ fun _ => rfl) fun _ => ?_
      unfold runFrom
      split
      · exact closed.stepFailed _ _
      · refine closed.bind (closed.runStep context [index] _) fun _ => ?_
        exact closed.bind (closed.pauseAfter context.settings rest) fun _ => induction (index + 1)
    rw [runSteps_cons_eq]
    refine closed.bind closed.isCancelled fun stopped => ?_
    cases stopped with
    | true => exact closed.bind (closed.throw _) fun _ => entered
    | false => exact entered

end Closed

end BrowserScript.Run

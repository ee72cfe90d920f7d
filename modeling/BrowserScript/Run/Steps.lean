import BrowserScript.Run.Action

/-!
# Running steps

The interpreter of a script. It goes through the tree of steps in order, checks conditions, repeats
loops, and counts and reports every completed step. Each check and each action is tried at most
twice: when the session goes away underneath it, it is tried again on the session that replaces the
lost one.
-/

namespace BrowserScript

/-- What a run keeps up to date. -/
structure RunState where
  session : SessionHandle
  /-- The index of the top-level step. -/
  index : Nat
  /-- Completed steps, nested ones included. -/
  executed : Nat
  deriving DecidableEq, Repr

/-- What a run is given. -/
structure RunContext where
  scriptId : String
  vars : Variables
  settings : Settings

/-- A piece of a run: it changes the state of the run and may end it. -/
abbrev Running (α : Type) : Type :=
  ExceptT RunError (StateT RunState (Program Run.Request Run.Request.Answer)) α

namespace Run

/-- Runs a program that does not touch the state of the run. -/
def ask {α : Type} (program : RunProgram α) : Running α :=
  ExceptT.lift (StateT.lift program)

/-- A step under way. -/
structure Place where
  path : StepPath
  kind : StepKind

def stepFailed {α : Type} (place : Place) (cause : StepFailure) : Running α := do
  throw (.stepFailed (← get).index place.path.text place.kind cause)

def sessionLost {α : Type} (place : Place) : Running α := do
  throw (.sessionLost (← get).index place.path.text place.kind)

/-- Ends the run if it is no longer wanted. -/
def checkWanted : Running Unit := do
  if ← ask isCancelled then throw (.cancelled (← get).index)

/-- Tries an operation on the session of the run, and once more on a recovered session if the first
is gone. -/
def guarded {α : Type} (place : Place) (operation : String → StepProgram α) : Running α := do
  match ← ask (operation (← get).session.sessionId).run with
  | .ok a => return a
  | .error failure =>
    if failure.isDetach then
      match ← ask (recover (← get).session) with
      | none => sessionLost place
      | some session =>
        modify fun state => { state with session }
        match ← ask (operation session.sessionId).run with
        | .ok a => return a
        | .error failure =>
          if failure.isDetach then sessionLost place else stepFailed place failure
    else stepFailed place failure

/-- Whether a condition holds; without one there is nothing to check. -/
def meets (context : RunContext) (place : Place) : Option Condition → Running Bool
  | none => return true
  | some condition =>
    guarded place fun session => holds context.settings.pollInterval session condition

/-- Runs a body over and over: at most `left` times, with a pause in between, until the condition of
the loop does not hold. -/
def iterate (context : RunContext) (place : Place) (loop : Loop) (body : Running Unit) :
    (left : Nat) → (first : Bool) → Running Unit
  | 0, _ => return ()
  | left + 1, first => do
    if !first && loop.waitBetweenMs ≠ 0 then ask (sleep loop.waitBetweenMs.toNat)
    checkWanted
    if ← meets context place loop.condition then
      body
      iterate context place loop body left false

/-- Counts a completed step and reports it. -/
def completed (context : RunContext) (place : Place) : Running Unit := do
  modify fun state => { state with executed := state.executed + 1 }
  ask (progress ⟨context.scriptId, (← get).index.toUInt64, place.path.text, place.kind⟩)

/-- The time limit of a step. -/
def limit (context : RunContext) (timeoutMs : Option UInt64) : Nat :=
  match timeoutMs with
  | some timeout => timeout.toNat
  | none => context.settings.defaultTimeout

mutual

/-- Runs a step, unless its condition does not hold. -/
def runStep (context : RunContext) (path : StepPath) : Step → Running Unit
  | .mk action condition loop timeoutMs _ => do
    let place : Place := ⟨path, action.kind⟩
    if ← meets context place condition then
      let body := runAction context place (limit context timeoutMs) action
      match loop with
      | none => body
      | some loop => iterate context place loop body loop.iterations.toNat true
      completed context place

/-- Carries out an action once. -/
def runAction (context : RunContext) (place : Place) (timeout : Nat) : Action → Running Unit
  | .steps children => runChildren context place.path 0 children
  | action => guarded place fun session => perform context.settings session timeout action

/-- Runs nested steps from the given index on. -/
def runChildren (context : RunContext) (path : StepPath) (index : Nat) :
    List Step → Running Unit
  | [] => return ()
  | child :: rest => do
    checkWanted
    runStep context (path ++ [index]) child
    runChildren context path (index + 1) rest

end

/-- Runs top-level steps from the given index on. Placeholders are filled right before a step
runs. -/
def runSteps (context : RunContext) (index : Nat) : List Step → Running Unit
  | [] => return ()
  | step :: rest => do
    if ← ask isCancelled then throw (.cancelled index)
    modify fun state => { state with index }
    match (step.fill context.vars).1 with
    | .error error => stepFailed ⟨[index], step.kind⟩ (.invalid error.message)
    | .ok filled =>
      runStep context [index] filled
      if context.settings.stepDelayMs ≠ 0 && !rest.isEmpty then
        ask (sleep context.settings.stepDelayMs.toNat)
      runSteps context (index + 1) rest

end Run

end BrowserScript

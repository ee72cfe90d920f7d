import BrowserScript.Proofs.Run.Pieces

/-!
# The meaning of a script

What a script does as a tree of steps, when nobody cancels it and its session lasts: what it
exchanges with its surroundings, how many steps it completes, and how it ends. The rules follow the
tree; there is no state but the session and the index of the top-level step. Main definitions:
`Run.StepRuns`, `Run.StepsRun`, `Run.ScriptRuns`.
-/

set_option autoImplicit false

namespace BrowserScript.Run

/-- What the steps inside a top-level step share. -/
structure Stage where
  context : RunContext
  session : String
  /-- The index of the top-level step. -/
  index : Nat

namespace Stage

/-- A step fails for this cause. -/
def failure (stage : Stage) (place : Place) (cause : StepFailure) : RunError :=
  .stepFailed stage.index place.path.text place.kind cause

/-- The report of a completed step. -/
def reported (stage : Stage) (place : Place) : Log :=
  [⟨.progress ⟨stage.context.scriptId, stage.index.toUInt64, place.path.text, place.kind⟩, ()⟩]

end Stage

/-- A pause, if it is one. -/
def pause (ms : UInt64) : Log := if ms = 0 then [] else [⟨.sleep ms.toNat, ()⟩]

/-- The pause before an iteration: none before the first. -/
def between (loop : Loop) (first : Bool) : Log := if first then [] else pause loop.waitBetweenMs

/-- How the check of a condition runs. -/
inductive Checks (stage : Stage) (place : Place) :
    Option Condition → Log → Except RunError Bool → Prop
  | unconditional : Checks stage place none [] (.ok true)
  | checked {condition : Condition} {log : Log} {result : Except StepFailure Bool}
      (run : Program.Transcript
        (holds stage.context.settings.pollInterval stage.session condition).run log result) :
      Checks stage place (some condition) log (result.mapError (stage.failure place))

mutual

/-- How a step at a path runs. -/
inductive StepRuns (stage : Stage) :
    StepPath → Step → Log → Nat → Except RunError Unit → Prop
  | unchecked {path : StepPath} {action : Action} {condition : Option Condition}
      {loop : Option Loop} {timeoutMs : Option UInt64} {source : Json} {log : Log}
      {error : RunError} (check : Checks stage ⟨path, action.kind⟩ condition log (.error error)) :
      StepRuns stage path (.mk action condition loop timeoutMs source) log 0 (.error error)
  | skipped {path : StepPath} {action : Action} {condition : Option Condition}
      {loop : Option Loop} {timeoutMs : Option UInt64} {source : Json} {log : Log}
      (check : Checks stage ⟨path, action.kind⟩ condition log (.ok false)) :
      StepRuns stage path (.mk action condition loop timeoutMs source) log 0 (.ok ())
  | failed {path : StepPath} {action : Action} {condition : Option Condition}
      {loop : Option Loop} {timeoutMs : Option UInt64} {source : Json} {log bodies : Log}
      {count : Nat} {error : RunError}
      (check : Checks stage ⟨path, action.kind⟩ condition log (.ok true))
      (body : BodiesRun stage ⟨path, action.kind⟩ (limit stage.context timeoutMs) action loop
        bodies count (.error error)) :
      StepRuns stage path (.mk action condition loop timeoutMs source) (log ++ bodies) count
        (.error error)
  | completed {path : StepPath} {action : Action} {condition : Option Condition}
      {loop : Option Loop} {timeoutMs : Option UInt64} {source : Json} {log bodies : Log}
      {count : Nat} (check : Checks stage ⟨path, action.kind⟩ condition log (.ok true))
      (body : BodiesRun stage ⟨path, action.kind⟩ (limit stage.context timeoutMs) action loop
        bodies count (.ok ())) :
      StepRuns stage path (.mk action condition loop timeoutMs source)
        (log ++ (bodies ++ stage.reported ⟨path, action.kind⟩)) (count + 1) (.ok ())

/-- How the bodies of a step run: one, or as many as its loop goes through. -/
inductive BodiesRun (stage : Stage) :
    Place → Nat → Action → Option Loop → Log → Nat → Except RunError Unit → Prop
  | once {place : Place} {timeout : Nat} {action : Action} {log : Log} {count : Nat}
      {outcome : Except RunError Unit}
      (body : BodyRuns stage place timeout action log count outcome) :
      BodiesRun stage place timeout action none log count outcome
  | repeated {place : Place} {timeout : Nat} {action : Action} {loop : Loop} {log : Log}
      {count : Nat} {outcome : Except RunError Unit}
      (iterations : IterationsRun stage place timeout action loop loop.iterations.toNat true log
        count outcome) :
      BodiesRun stage place timeout action (some loop) log count outcome

/-- How the iterations that are left of a loop run. -/
inductive IterationsRun (stage : Stage) :
    Place → Nat → Action → Loop → (left : Nat) → (first : Bool) → Log → Nat →
      Except RunError Unit → Prop
  | over {place : Place} {timeout : Nat} {action : Action} {loop : Loop} {first : Bool} :
      IterationsRun stage place timeout action loop 0 first [] 0 (.ok ())
  | unchecked {place : Place} {timeout : Nat} {action : Action} {loop : Loop} {left : Nat}
      {first : Bool} {log : Log} {error : RunError}
      (check : Checks stage place loop.condition log (.error error)) :
      IterationsRun stage place timeout action loop (left + 1) first (between loop first ++ log) 0
        (.error error)
  | ended {place : Place} {timeout : Nat} {action : Action} {loop : Loop} {left : Nat}
      {first : Bool} {log : Log} (check : Checks stage place loop.condition log (.ok false)) :
      IterationsRun stage place timeout action loop (left + 1) first (between loop first ++ log) 0
        (.ok ())
  | failed {place : Place} {timeout : Nat} {action : Action} {loop : Loop} {left : Nat}
      {first : Bool} {log body : Log} {count : Nat} {error : RunError}
      (check : Checks stage place loop.condition log (.ok true))
      (run : BodyRuns stage place timeout action body count (.error error)) :
      IterationsRun stage place timeout action loop (left + 1) first
        (between loop first ++ (log ++ body)) count (.error error)
  | again {place : Place} {timeout : Nat} {action : Action} {loop : Loop} {left : Nat}
      {first : Bool} {log body rest : Log} {count others : Nat} {outcome : Except RunError Unit}
      (check : Checks stage place loop.condition log (.ok true))
      (run : BodyRuns stage place timeout action body count (.ok ()))
      (further : IterationsRun stage place timeout action loop left false rest others outcome) :
      IterationsRun stage place timeout action loop (left + 1) first
        (between loop first ++ (log ++ (body ++ rest))) (count + others) outcome

/-- How a body runs: a single action, or nested steps in order. -/
inductive BodyRuns (stage : Stage) :
    Place → Nat → Action → Log → Nat → Except RunError Unit → Prop
  | single {place : Place} {timeout : Nat} {action : Action} {log : Log}
      {result : Except StepFailure Unit} (leaf : ∀ children, action ≠ .steps children)
      (run : Program.Transcript
        (perform stage.context.settings stage.session timeout action).run log result) :
      BodyRuns stage place timeout action log 0 (result.mapError (stage.failure place))
  | nested {place : Place} {timeout : Nat} {children : List Step} {log : Log} {count : Nat}
      {outcome : Except RunError Unit}
      (run : ChildrenRun stage place.path 0 children log count outcome) :
      BodyRuns stage place timeout (.steps children) log count outcome

/-- How nested steps run from an index on. -/
inductive ChildrenRun (stage : Stage) :
    StepPath → Nat → List Step → Log → Nat → Except RunError Unit → Prop
  | over {path : StepPath} {index : Nat} : ChildrenRun stage path index [] [] 0 (.ok ())
  | failed {path : StepPath} {index : Nat} {child : Step} {rest : List Step} {log : Log}
      {count : Nat} {error : RunError}
      (run : StepRuns stage (path ++ [index]) child log count (.error error)) :
      ChildrenRun stage path index (child :: rest) log count (.error error)
  | next {path : StepPath} {index : Nat} {child : Step} {rest : List Step} {log later : Log}
      {count others : Nat} {outcome : Except RunError Unit}
      (run : StepRuns stage (path ++ [index]) child log count (.ok ()))
      (further : ChildrenRun stage path (index + 1) rest later others outcome) :
      ChildrenRun stage path index (child :: rest) (log ++ later) (count + others) outcome

end

/-- The pause after a top-level step: none after the last. -/
def rested (settings : Settings) (rest : List Step) : Log :=
  if rest.isEmpty then [] else pause settings.stepDelayMs

/-- How top-level steps run from an index on. -/
inductive StepsRun (context : RunContext) (session : String) :
    Nat → List Step → Log → Nat → Except RunError Unit → Prop
  | over {index : Nat} : StepsRun context session index [] [] 0 (.ok ())
  | unfilled {index : Nat} {step : Step} {rest : List Step} {error : Json.ReadError}
      (fills : (step.fill context.vars).1 = .error error) :
      StepsRun context session index (step :: rest) [] 0 (.error
        (Stage.failure ⟨context, session, index⟩ ⟨[index], step.kind⟩ (.invalid error.message)))
  | failed {index : Nat} {step filled : Step} {rest : List Step} {log : Log} {count : Nat}
      {error : RunError} (fills : (step.fill context.vars).1 = .ok filled)
      (run : StepRuns ⟨context, session, index⟩ [index] filled log count (.error error)) :
      StepsRun context session index (step :: rest) log count (.error error)
  | next {index : Nat} {step filled : Step} {rest : List Step} {log later : Log}
      {count others : Nat} {outcome : Except RunError Unit}
      (fills : (step.fill context.vars).1 = .ok filled)
      (run : StepRuns ⟨context, session, index⟩ [index] filled log count (.ok ()))
      (further : StepsRun context session (index + 1) rest later others outcome) :
      StepsRun context session index (step :: rest)
        (log ++ (rested context.settings rest ++ later)) (count + others) outcome

/-- The session is given up at the end if it is to be. -/
inductive Parts (target : String) : Bool → Log → Prop
  | keep : Parts target false []
  | detach (answer : Except PageError Unit) : Parts target true [⟨.detach target, answer⟩]

/-- How a whole script runs. -/
inductive ScriptRuns (settings : Settings) (script : Script) (overrides : Variables)
    (options : RunOptions) : Log → RunResult → Prop
  | unattached {started ended : Nat} {error : PageError} {parting : Log}
      (parts : Parts options.target options.detach parting) :
      ScriptRuns settings script overrides options
        ([⟨.now, started⟩, ⟨.acquire options.target, ()⟩, ⟨.attach options.target, .error error⟩] ++
          (parting ++ [⟨.release options.target, ()⟩, ⟨.now, ended⟩]))
        (.report options.target (.error (.setup error.message)) 0 (ended - started))
  | attached {started ended count : Nat} {session : SessionHandle} {log parting : Log}
      {outcome : Except RunError Unit}
      (steps : StepsRun ⟨script.id, script.parameters.merge overrides, settings⟩ session.sessionId 0
        script.steps log count outcome)
      (parts : Parts options.target (options.detach || !session.keepAlive) parting) :
      ScriptRuns settings script overrides options
        ([⟨.now, started⟩, ⟨.acquire options.target, ()⟩, ⟨.attach options.target, .ok session⟩] ++
          (log ++ (parting ++ [⟨.release options.target, ()⟩, ⟨.now, ended⟩])))
        (.report options.target outcome count (ended - started))

/-- The run asks whether it is still wanted. -/
def Request.isCheck : Request → Bool
  | isCancelled => true
  | _ => false

/-- All but the questions whether the run is still wanted. -/
def visible (log : Log) : Log := log.filter fun entry => !entry.request.isCheck

theorem visible_append (before after : Log) :
    visible (before ++ after) = visible before ++ visible after :=
  List.filter_append before after

/-- The progress that an entry reports. -/
def progressOf : Program.Entry Request Request.Answer → Option ProgressEvent
  | ⟨.progress event, _⟩ => some event
  | _ => none

def progressEvents (log : Log) : List ProgressEvent := log.filterMap progressOf

end BrowserScript.Run

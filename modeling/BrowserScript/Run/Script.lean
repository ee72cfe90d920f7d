import BrowserScript.Run.Steps

/-!
# Running a script

A run waits for its turn on the target, attaches, runs the steps, detaches if it is asked to, and
lets the next one go on. It always ends with a report.
-/

namespace BrowserScript

structure RunOptions where
  target : String
  /-- Detach at the end, whatever the settings say. -/
  detach : Bool
  deriving DecidableEq, Repr

namespace Run

/-- Attaches and runs the steps. Returns how the run ended, how many steps were completed, and
whether the session is to be kept. -/
def attachAndRun (settings : Settings) (script : Script) (vars : Variables) (target : String) :
    RunProgram (Except RunError Unit × Nat × Bool) := do
  if ← isCancelled then return (.error (.cancelled 0), 0, true)
  else
    match ← attach target with
    | .error error => return (.error (.setup error.message), 0, true)
    | .ok session =>
      let context : RunContext := ⟨script.id, vars, settings⟩
      let (outcome, state) ← ((runSteps context 0 script.steps).run).run ⟨session, 0, 0⟩
      return (outcome, state.executed, session.keepAlive)

/-- A whole run, with `overrides` laid over the parameters of the script. -/
def script (settings : Settings) (script : Script) (overrides : Variables) (options : RunOptions) :
    RunProgram RunResult := do
  let started ← now
  acquire options.target
  let vars := script.parameters.merge overrides
  let (outcome, executed, keep) ← attachAndRun settings script vars options.target
  if options.detach || !keep then
    let _ ← detach options.target
  release options.target
  let ended ← now
  return RunResult.report options.target outcome executed (ended - started)

end Run

end BrowserScript

import BrowserScript.Simulation.Task

/-!
# Turns and time

Tasks take turns until all of them wait; then the time moves on to the next moment that one of them
waits for. Main definitions: `World.settle` and `World.waitFor`.
-/

namespace BrowserScript.Simulation

/-- The moment an active call waits for. -/
def ActiveCall.due : ActiveCall → Nat
  | opening _ due => due
  | command _ deadline _ _ => deadline

/-- The moments a stage waits for. -/
def Stage.dues : Stage → List Nat
  | operation _ _ (some active) _ => [active.due]
  | operation _ (.time due) none _ => [due]
  | operation _ (.change deadline) none _ => [deadline]
  | calling active _ => [active.due]
  | sleeping due _ => [due]
  | sending _ _ deadline _ => [deadline]
  | _ => []

namespace World

/-- The moments a task waits for. -/
def dues (w : World) : Job → List Nat
  | .runner r => r.stage.dues
  | .orchestrator =>
    match w.exchange with
    | none => []
    | some x =>
      match x.orchestrator.activity with
      | .idle => [x.orchestrator.nextSweep]
      | .pausing _ _ due => [due]
      | _ => []
  | _ => []

/-- The next moment that something is due. -/
def nextDue (w : World) : Option Nat :=
  ((w.tasks.flatMap fun task => w.dues task.job).filter fun due => w.now < due).min?

/-- Lets tasks take turns until all of them wait. -/
def takeTurns : (turns : Nat) → World → World
  | 0, w => w
  | turns + 1, w =>
    match w.ready with
    | [] => w
    | id :: rest => takeTurns turns ({ w with ready := rest }.poll id)

def settle (w : World) : World := takeTurns stepLimit w

/-- Moves on to a moment; the tasks for which it is due are woken. -/
def moveOn (w : World) (time : Nat) : World :=
  let w := { w with now := time }
  w.wakeAll (w.tasksWhere fun job => (w.dues job).any fun due => due ≤ time)

/-- Lets time pass until `isDone` holds or a moment is reached. -/
def passTime (isDone : World → Bool) (limit : Nat) : (moves : Nat) → World → World
  | 0, w => w
  | moves + 1, w =>
    let w := w.settle
    if isDone w then w
    else
      match w.nextDue with
      | none => { w with now := max w.now limit }
      | some due =>
        if due ≤ limit then passTime isDone limit moves (w.moveOn due)
        else { w with now := max w.now limit }

/-- Lets up to `ms` pass until `isDone` holds. -/
def waitFor (w : World) (isDone : World → Bool) (ms : Nat) : World :=
  passTime isDone (w.now + ms) (ms + 2) w

/-- Lets `ms` pass. -/
def sleep (w : World) (ms : Nat) : World := w.waitFor (fun _ => false) ms

end World

end BrowserScript.Simulation

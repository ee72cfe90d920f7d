import BrowserScript.Run.Lookup
import BrowserScript.Text.Within

/-!
# Actions

How the action of a single step, and the check of a condition, is carried out through page calls on
one session. Nested steps are left to the interpreter.
-/

namespace BrowserScript

/-- A piece of a step: it either succeeds or fails the step. -/
abbrev StepProgram (α : Type) : Type :=
  ExceptT StepFailure (Program Run.Request Run.Request.Answer) α

namespace Run

/-- A page call that fails the step if it fails. -/
def call (session : String) (call : PageCall) : StepProgram Json :=
  ExceptT.mk (do return (← page session call).mapError StepFailure.ofPageError)

def callAll (session : String) : List PageCall → StepProgram Unit
  | [] => return ()
  | first :: rest => do
    let _ ← call session first
    callAll session rest

/-- Looks for an element; the step fails if there is none. -/
def element (lookup : Lookup) (session : String) (selectors : Selectors) (timeout : Nat) :
    StepProgram Element :=
  ExceptT.mk (do
    return (← lookup.find session selectors timeout).mapError LookupError.failure)

/-- The text in a value, empty if it is none. -/
def textOf (value : Json) : String := value.string?.getD ""

/-- Whether a condition holds now. -/
def holds (interval : Nat) (session : String) : Condition → StepProgram Bool
  | .expression source => return (← call session (.evaluate source)).isTruthy
  | .element selectors present => do
    let found ← ExceptT.mk (do
      return (← Lookup.probe interval session selectors).mapError StepFailure.ofPageError)
    return found.isSome == present
  | .urlContains part => do
    let url ← call session (.evaluate Page.locationExpression)
    return Text.contains (textOf url) part
  | .textContains part => do
    let text ← call session (.evaluate Page.bodyTextExpression)
    return Text.contains (textOf text) part

/-- Probes after every interval until the probe holds or the deadline is reached; `left` more probes
follow the first at most. -/
def poll (interval deadline : Nat) (late : StepFailure) (probe : StepProgram Bool) :
    (left : Nat) → StepProgram Unit
  | 0 => do
    if ← probe then return () else throw late
  | left + 1 => do
    if ← probe then return ()
    else
      let time ← liftM now
      if deadline ≤ time then throw late
      else
        liftM (sleep interval)
        poll interval deadline late probe left

/-- Waits until a probe holds; `what` names it when the time limit passes. -/
def waitUntil (interval timeout : Nat) (what : String) (probe : StepProgram Bool) :
    StepProgram Unit := do
  let started ← liftM now
  poll interval (started + timeout) (.timeout what timeout.toUInt64) probe
    ((timeout + interval - 1) / interval)

/-- Fails the step when the page could not do what it was told. -/
def require (done : Json) (selectors : String) : StepProgram Unit :=
  if done.isTruthy then return () else throw (.notFound selectors)

def act (op : String) (arguments : List (String × Json)) : PageCall :=
  .apply Page.actionFunction (.ofMembers (("op", .str op) :: arguments))

def click (settings : Settings) (session : String) (timeout : Nat) (step : ClickStep) :
    StepProgram Unit := do
  let lookup : Lookup := ⟨some settings.clickable, false, settings.pollInterval⟩
  let element ← element lookup session step.selectors timeout
  let x := element.box.x + step.offsetX.getD element.box.width.half
  let y := element.box.y + step.offsetY.getD element.box.height.half
  callAll session ((Page.clickInput x y step.button step.clickCount).map .input)

def type (settings : Settings) (session : String) (timeout : Nat) (selectors : Selectors)
    (value : String) : StepProgram Unit := do
  let element ← element ⟨none, false, settings.pollInterval⟩ session selectors timeout
  let handle := ("handle", Json.str element.handle)
  require (← call session (act "focus" [handle])) element.path
  unless value.isEmpty do
    let _ ← call session (.input (.insertText value))
  let _ ← call session (act "commit" [handle])

def hover (settings : Settings) (session : String) (timeout : Nat) (selectors : Selectors) :
    StepProgram Unit := do
  let element ← element ⟨none, false, settings.pollInterval⟩ session selectors timeout
  let (x, y) := element.box.center
  let _ ← call session (.input (.mouseMove x y))

def scroll (settings : Settings) (session : String) (timeout : Nat) (step : ScrollStep) :
    StepProgram Unit := do
  let handle ←
    if step.selectors.isEmpty then pure Json.null
    else do
      let element ← element ⟨none, false, settings.pollInterval⟩ session step.selectors timeout
      pure (Json.str element.handle)
  let done ← call session
    (act "scroll" [("handle", handle), ("x", .ofBinary64 step.x), ("y", .ofBinary64 step.y)])
  require done step.selectors.shown

/-- The input of a key. -/
def keyInput (key : String) : KeyDirection → List InputEvent
  | .down => [.keyDown key]
  | .up => [.keyUp key]
  | .press => [.keyDown key, .keyUp key]

/-- Carries out an action on a session. Nested steps have no action of their own. -/
def perform (settings : Settings) (session : String) (timeout : Nat) : Action → StepProgram Unit
  | .navigate url => do
    let _ ← call session (.navigate url)
    waitUntil settings.pollInterval timeout "page load" do
      return Page.isReady (← call session (.evaluate Page.readyStateExpression))
  | .click step => click settings session timeout step
  | .type selectors value => type settings session timeout selectors value
  | .hover selectors => hover settings session timeout selectors
  | .scroll step => scroll settings session timeout step
  | .waitForElement selectors visible => do
    let _ ← element ⟨none, visible, settings.pollInterval⟩ session selectors timeout
  | .waitForExpression source =>
    waitUntil settings.pollInterval timeout source do
      return (← call session (.evaluate source)).isTruthy
  | .setViewport viewport => do
    let _ ← call session
      (.resize ⟨viewport.width, viewport.height, viewport.deviceScaleFactor, viewport.isMobile⟩)
  | .key key direction => callAll session ((keyInput key direction).map .input)
  | .steps _ => return ()

end Run

end BrowserScript

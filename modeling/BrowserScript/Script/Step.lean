import BrowserScript.Script.Condition
import BrowserScript.Script.Template

/-!
# Steps

One instruction of a script. A step keeps the JSON value it was read from, so that placeholders in
any of its strings can be filled right before it runs.
-/

namespace BrowserScript

/-- What kind of step it is, for reports. -/
inductive StepKind where
  | navigate
  | click
  | type
  | hover
  | scroll
  | waitForElement
  | waitForExpression
  | setViewport
  | keyEvent
  | nestedSteps
  deriving DecidableEq, Repr, Inhabited

namespace StepKind

def name : StepKind → String
  | navigate => "navigate"
  | click => "click"
  | type => "type"
  | hover => "hover"
  | scroll => "scroll"
  | waitForElement => "wait-for-element"
  | waitForExpression => "wait-for-expression"
  | setViewport => "set-viewport"
  | keyEvent => "key-event"
  | nestedSteps => "nested-steps"

def all : List StepKind :=
  [navigate, click, type, hover, scroll, waitForElement, waitForExpression, setViewport, keyEvent,
    nestedSteps]

/-- Whether a step of this kind aims at an element that should be clickable. -/
def isClickClass : StepKind → Bool
  | click => true
  | _ => false

def decoder : Json.Decoder StepKind :=
  .variant (all.map fun kind => (kind.name, kind)) (all.map name)

end StepKind

inductive MouseButton where
  | left
  | middle
  | right
  deriving DecidableEq, Repr, Inhabited

namespace MouseButton

def name : MouseButton → String
  | left => "left"
  | middle => "middle"
  | right => "right"

/-- Every name a button may have. -/
def names : List (String × MouseButton) :=
  [("left", left), ("primary", left), ("auxiliary", middle), ("middle", middle), ("right", right),
    ("secondary", right)]

def decoder : Json.Decoder MouseButton := .variant names (names.map Prod.fst)

end MouseButton

inductive KeyDirection where
  | down
  | up
  /-- Down and up again. -/
  | press
  deriving DecidableEq, Repr, Inhabited

structure ClickStep where
  selectors : Selectors
  /-- From the left edge of the element; its centre if not given. -/
  offsetX : Option Binary64
  /-- From the top edge of the element; its centre if not given. -/
  offsetY : Option Binary64
  button : MouseButton
  clickCount : UInt32
  deriving DecidableEq, Repr

structure ScrollStep where
  /-- The element to scroll in; the window if empty. -/
  selectors : Selectors
  x : Binary64
  y : Binary64
  deriving DecidableEq, Repr

structure ViewportStep where
  width : UInt32
  height : UInt32
  deviceScaleFactor : Binary64
  isMobile : Bool
  deriving DecidableEq, Repr

/-- Repeats the body of a step. -/
structure Loop where
  iterations : UInt32
  waitBetweenMs : UInt64
  /-- Checked before each iteration; the first that does not hold ends the loop. -/
  condition : Option Condition
  deriving DecidableEq, Repr

mutual

inductive Action where
  | navigate (url : String)
  | click (click : ClickStep)
  | type (selectors : Selectors) (value : String)
  | hover (selectors : Selectors)
  | scroll (scroll : ScrollStep)
  | waitForElement (selectors : Selectors) (visible : Bool)
  | waitForExpression (source : String)
  | setViewport (viewport : ViewportStep)
  | key (key : String) (direction : KeyDirection)
  | steps (children : List Step)
  deriving Repr

inductive Step where
  | mk (action : Action) (condition : Option Condition) (loop : Option Loop)
      (timeoutMs : Option UInt64) (source : Json)
  deriving Repr

end

instance : Inhabited Action := ⟨.steps []⟩

def Action.kind : Action → StepKind
  | navigate _ => .navigate
  | click _ => .click
  | type _ _ => .type
  | hover _ => .hover
  | scroll _ => .scroll
  | waitForElement _ _ => .waitForElement
  | waitForExpression _ => .waitForExpression
  | setViewport _ => .setViewport
  | key _ _ => .keyEvent
  | steps _ => .nestedSteps

namespace Step

def action : Step → Action
  | mk action _ _ _ _ => action

/-- The step is passed over when this does not hold. -/
def condition : Step → Option Condition
  | mk _ condition _ _ _ => condition

def loop : Step → Option Loop
  | mk _ _ loop _ _ => loop

/-- Overrides the time limit of the settings. -/
def timeoutMs : Step → Option UInt64
  | mk _ _ _ timeoutMs _ => timeoutMs

/-- The value the step was read from. -/
def source : Step → Json
  | mk _ _ _ _ source => source

def kind (step : Step) : StepKind := step.action.kind

def children (step : Step) : List Step :=
  match step.action with
  | .steps children => children
  | _ => []

instance : Inhabited Step := ⟨.mk (.steps []) none none none .null⟩

mutual

/-- The step and everything nested in it. -/
def size : Step → Nat
  | mk action _ _ _ _ => 1 + actionSize action

def actionSize : Action → Nat
  | .steps children => totalSize children
  | _ => 0

def totalSize : List Step → Nat
  | [] => 0
  | step :: rest => size step + totalSize rest

end

end Step

end BrowserScript

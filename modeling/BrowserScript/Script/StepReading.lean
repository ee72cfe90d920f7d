import BrowserScript.Script.Step

/-!
# Reading steps

The type of a step is named by its member `type`; the other members are read as that type wants
them, then the condition, the loop and the time limit that any step may have. Main definitions:
`Step.ofJson` and `Step.fill`, which fills the placeholders of a step.
-/

namespace BrowserScript

/-- The accepted values of a step's `type`. -/
inductive StepType where
  | navigate
  | click
  | doubleClick
  | type
  | change
  | hover
  | scroll
  | waitForElement
  | waitForExpression
  | setViewport
  | keyDown
  | keyUp
  | keyPress
  | steps
  deriving DecidableEq, Repr

namespace StepType

def name : StepType → String
  | navigate => "navigate"
  | click => "click"
  | doubleClick => "doubleClick"
  | type => "type"
  | change => "change"
  | hover => "hover"
  | scroll => "scroll"
  | waitForElement => "waitForElement"
  | waitForExpression => "waitForExpression"
  | setViewport => "setViewport"
  | keyDown => "keyDown"
  | keyUp => "keyUp"
  | keyPress => "keyPress"
  | steps => "steps"

def all : List StepType :=
  [navigate, click, doubleClick, type, change, hover, scroll, waitForElement, waitForExpression,
    setViewport, keyDown, keyUp, keyPress, steps]

def ofName? (name : String) : Option StepType := all.find? fun known => known.name == name

end StepType

open Json in
def ClickStep.fields (clickCount : UInt32) : Fields ClickStep :=
  Fields.done (fun selectors offsetX offsetY button =>
      ClickStep.mk selectors offsetX offsetY button clickCount)
    |>.and (.required "selectors" Selectors.decoder)
    |>.and (.optional "offsetX" .float)
    |>.and (.optional "offsetY" .float)
    |>.and (.orDefault "button" MouseButton.decoder .left)

open Json in
def ScrollStep.fields : Fields ScrollStep :=
  Fields.done ScrollStep.mk
    |>.and (.orDefault "selectors" Selectors.decoder default)
    |>.and (.orDefault "x" .float Binary64.zero)
    |>.and (.orDefault "y" .float Binary64.zero)

namespace ViewportStep

open Json in
def decoder : Decoder ViewportStep :=
  .record "struct SetViewportAction"
    (Fields.done ViewportStep.mk
      |>.and (.required "width" .uint32)
      |>.and (.required "height" .uint32)
      |>.and (.orDefault "deviceScaleFactor" .float Binary64.one)
      |>.and (.orDefault "isMobile" .bool false))

end ViewportStep

namespace Loop

open Json in
def decoder : Decoder Loop :=
  .record "struct LoopSpec"
    (Fields.done Loop.mk
      |>.and (.required "iterations" .uint32)
      |>.and (.orDefault "waitBetweenMs" .uint64 0)
      |>.and (.orDefault "condition" (.optional Condition.decoder) none))

end Loop

namespace Step

open Json

/-- What any step may have beside its action. -/
structure Modifiers where
  condition : Option Condition
  loop : Option Loop
  timeoutMs : Option UInt64

def modifiersDecoder : Decoder Modifiers :=
  .record "struct Common"
    (Fields.done Modifiers.mk
      |>.and (.orDefault "condition" (.optional Condition.decoder) none)
      |>.and (.orDefault "loop" (.optional Loop.decoder) none)
      |>.and (.orDefault "timeout" (.optional .uint64) none))

/-- The action of a step of the given type. The nested steps are handed in, since reading them is
part of the recursion over the whole value; `none` stands for a missing list. -/
def actionOf (source : Json) (nested : Unit → Option (Except ReadError (List Step))) :
    StepType → Except ReadError Action
  | .navigate =>
    Decoder.readValue (Decoder.record "struct NavigateAction"
      (Fields.done Action.navigate |>.and (.required "url" .string))) source
  | .click =>
    Decoder.readValue (Decoder.record "struct ClickAction" (ClickStep.fields 1)) source |>.map .click
  | .doubleClick =>
    Decoder.readValue (Decoder.record "struct ClickAction" (ClickStep.fields 2)) source |>.map .click
  | .type | .change =>
    Decoder.readValue (Decoder.record "struct TypeAction"
      (Fields.done Action.type
        |>.and (.required "selectors" Selectors.decoder)
        |>.and (.required "value" .string))) source
  | .hover =>
    Decoder.readValue (Decoder.record "struct TargetAction"
      (Fields.done Action.hover |>.and (.required "selectors" Selectors.decoder))) source
  | .scroll =>
    Decoder.readValue (Decoder.record "struct ScrollAction" ScrollStep.fields) source |>.map .scroll
  | .waitForElement =>
    Decoder.readValue (Decoder.record "struct WaitForElementAction"
      (Fields.done Action.waitForElement
        |>.and (.required "selectors" Selectors.decoder)
        |>.and (.orDefault "visible" .bool false))) source
  | .waitForExpression =>
    Decoder.readValue (Decoder.record "struct WaitForExpressionAction"
      (Fields.done Action.waitForExpression |>.and (.required "expression" .string))) source
  | .setViewport => Decoder.readValue ViewportStep.decoder source |>.map .setViewport
  | .keyDown => key .down
  | .keyUp => key .up
  | .keyPress => key .press
  | .steps =>
    match nested () with
    | some steps => steps.map .steps
    | none => Decoder.fail (.missingField "steps")
where
  key (direction : KeyDirection) : Except ReadError Action :=
    Decoder.readValue (Decoder.record "struct KeyAction"
      (Fields.done (fun key => Action.key key direction) |>.and (.required "key" .string))) source

/-- A step from its source, with the nested steps handed in. -/
def build (source : Json) (nested : Unit → Option (Except ReadError (List Step))) :
    Except ReadError Step :=
  match source.field? "type" with
  | some (.str typeName) =>
    match StepType.ofName? typeName with
    | none => Decoder.fail (.unknownVariant typeName (StepType.all.map StepType.name))
    | some known => do
      let action ← actionOf source nested known
      let modifiers ← Decoder.readValue modifiersDecoder source
      return mk action modifiers.condition modifiers.loop modifiers.timeoutMs source
  | _ => Decoder.fail (.rule "step is missing a string `type` field")

mutual

/-- A step from its JSON value. -/
def ofJson : Json → Except ReadError Step
  | .obj members => build (.obj members) fun _ => nestedIn members
  | source => build source fun _ => none

/-- The nested steps of an object, if it has a member for them. -/
def nestedIn : List (String × Json) → Option (Except ReadError (List Step))
  | [] => none
  | (key, value) :: rest => if key = "steps" then some (listOf value) else nestedIn rest

def listOf : Json → Except ReadError (List Step)
  | .arr items => stepsOf items
  | value => Decoder.unplaced (Decoder.unexpected "a sequence" value.outline)

def stepsOf : List Json → Except ReadError (List Step)
  | [] => .ok []
  | item :: rest => do
    let step ← ofJson item
    let steps ← stepsOf rest
    return step :: steps

end

/-- A step inside a text is first read as a value. -/
def decoder : Decoder Step := fun _ o => do
  let source ← Decoder.json o
  ofJson source

/-- The step with its placeholders filled, and the names that were missing. A step that no value
changes is kept as it is. -/
def fill (step : Step) (vars : Variables) : Except ReadError Step × List String :=
  let (source, missing) := Template.substituteJson vars step.source
  (if source = step.source then .ok step else ofJson source, missing)

end Step

end BrowserScript

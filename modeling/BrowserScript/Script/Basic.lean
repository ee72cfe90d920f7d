import BrowserScript.Script.StepReading
import BrowserScript.Yaml.Reading

/-!
# Scripts

A script is a title, default values for its placeholders, and steps. Beyond the types of its parts
it has to be well formed: steps are not nested too deep, and a step that needs an address or an
element names one. `Script.violation?` gives the first violation in the order the steps stand.
-/

namespace BrowserScript

structure Script where
  /-- Given by the store that the script comes from. -/
  id : String
  title : String
  description : Option String
  parameters : Variables
  steps : List Step
  deriving Repr, Inhabited

/-- A rule that a configuration breaks. -/
inductive ConfigError where
  | nestedTooDeep
  | navigateNeedsUrl
  | needsSelectors (stepType : StepType)
  | invalidArgument (argument : String)
  | invalidScriptId (id : String)
  | scriptNotFound (id : String)
  | scriptNotFoundIn (id : String) (directory : String)
  deriving DecidableEq, Repr

/-- Steps inside more nested lists than this are refused. -/
def maxNestingDepth : Nat := 16

namespace ConfigError

def message : ConfigError → String
  | nestedTooDeep => s!"steps nested deeper than {maxNestingDepth} levels"
  | navigateNeedsUrl => "navigate step needs a url"
  | needsSelectors stepType => s!"{stepType.name} step needs selectors"
  | invalidArgument argument => s!"invalid param '{argument}', expected key=value"
  | invalidScriptId id => s!"invalid script id '{id}'"
  | scriptNotFound id => s!"script '{id}' not found"
  | scriptNotFoundIn id directory => s!"script '{id}' not found in {directory}"

end ConfigError

/-- Why a script or a settings file could not be loaded. -/
inductive LoadError where
  | config (error : ConfigError)
  | json (error : Json.ReadError)
  /-- What is wrong is told where any value would do. -/
  | yaml (error : Option Yaml.ReadError)
  | file
  deriving DecidableEq, Repr

def LoadError.message : LoadError → String
  | config error => s!"config error: {error.message}"
  | json error => s!"json parse error: {error.message}"
  | yaml none => "yaml parse error"
  | yaml (some error) => s!"yaml parse error: {error.message}"
  | file => "io error"

namespace Script

/-- What an action by itself lacks. -/
def lacking : Action → Option ConfigError
  | .navigate url => if url.isEmpty then some .navigateNeedsUrl else none
  | .click click => if click.selectors.isEmpty then some (.needsSelectors .click) else none
  | .type selectors _ => if selectors.isEmpty then some (.needsSelectors .type) else none
  | .hover selectors => if selectors.isEmpty then some (.needsSelectors .hover) else none
  | .waitForElement selectors _ =>
    if selectors.isEmpty then some (.needsSelectors .waitForElement) else none
  | _ => none

mutual

/-- The first violation in a step inside `depth` nested lists. -/
def stepViolation (depth : Nat) : Step → Option ConfigError
  | .mk action _ _ _ _ => actionViolation depth action

def actionViolation (depth : Nat) : Action → Option ConfigError
  | .steps children =>
    if maxNestingDepth < depth + 1 then some .nestedTooDeep
    else stepsViolation (depth + 1) children
  | action => lacking action

/-- The first violation in steps inside `depth` nested lists. -/
def stepsViolation (depth : Nat) : List Step → Option ConfigError
  | [] => none
  | step :: rest => (stepViolation depth step).or (stepsViolation depth rest)

end

def violation? (script : Script) : Option ConfigError := stepsViolation 0 script.steps

open Json in
def decoder : Decoder Script :=
  .record "struct Script"
    (Fields.done (Script.mk "")
      |>.and (.orDefault "title" .string "")
      |>.and (.orDefault "description" (.optional .string) none)
      |>.and (.orDefault "parameters" Variables.decoder Variables.empty)
      |>.and (.orDefault "steps" (.list Step.decoder) []))

/-- Refuses a script that is not well formed. -/
def checked (script : Script) : Except LoadError Script :=
  match script.violation? with
  | some error => .error (.config error)
  | none => .ok script

/-- A script from its JSON text. -/
def parse (text : String) : Except LoadError Script :=
  match decoder.readText text with
  | .ok script => script.checked
  | .error error => .error (.json error)

/-- A script from its JSON value. -/
def ofJson (value : Json) : Except LoadError Script :=
  match decoder.readValue value with
  | .ok script => script.checked
  | .error error => .error (.json error)

/-- The same script under another id. -/
def withId (script : Script) (id : String) : Script := { script with id }

/-- All steps, nested ones included. -/
def stepCount (script : Script) : Nat := Step.totalSize script.steps

end Script

end BrowserScript

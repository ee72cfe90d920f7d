import BrowserScript.Page.Basic

/-!
# Outcomes of a run

How a step can fail, how a run can end, and what is reported of it.
-/

namespace BrowserScript

/-- The outcome in one word. -/
inductive ResultCode where
  | success
  | stepFailed
  | sessionLost
  | notFound
  | relayTimeout
  | relayDisconnected
  | invalidCommand
  | cancelled
  deriving DecidableEq, Repr, Inhabited

namespace ResultCode

def name : ResultCode → String
  | success => "success"
  | stepFailed => "StepFailed"
  | sessionLost => "SessionLost"
  | notFound => "NotFound"
  | relayTimeout => "RelayTimeout"
  | relayDisconnected => "RelayDisconnected"
  | invalidCommand => "InvalidCommand"
  | cancelled => "Cancelled"

def all : List ResultCode :=
  [success, stepFailed, sessionLost, notFound, relayTimeout, relayDisconnected, invalidCommand,
    cancelled]

def decoder : Json.Decoder ResultCode :=
  .variant (all.map fun code => (code.name, code)) (all.map name)

end ResultCode

/-- Why a single step failed. -/
inductive StepFailure where
  | notFound (selectors : String)
  | timeout (what : String) (timeoutMs : UInt64)
  | detached (reason : String)
  | page (reason : String)
  | invalid (reason : String)
  deriving DecidableEq, Repr

namespace StepFailure

def message : StepFailure → String
  | notFound selectors => s!"no element matched {selectors}"
  | timeout what timeoutMs => s!"timed out after {timeoutMs}ms waiting for {what}"
  | detached reason => s!"session detached: {reason}"
  | page reason => reason
  | invalid reason => s!"invalid step: {reason}"

def isDetach : StepFailure → Bool
  | detached _ => true
  | _ => false

def ofPageError (error : PageError) : StepFailure :=
  if error.isDetach then detached error.message else page error.message

def toJson : StepFailure → Json
  | notFound selectors => .ofMembers [("type", .str "notFound"), ("selectors", .str selectors)]
  | timeout what timeoutMs =>
    .ofMembers [("type", .str "timeout"), ("what", .str what),
      ("timeout_ms", .ofNat timeoutMs.toNat)]
  | detached reason => .ofMembers [("type", .str "detached"), ("message", .str reason)]
  | page reason => .ofMembers [("type", .str "protocol"), ("message", .str reason)]
  | invalid reason => .ofMembers [("type", .str "invalid"), ("message", .str reason)]

end StepFailure

/-- Where a step stands: its index among its siblings and those of all steps around it, outermost
first. -/
abbrev StepPath := List Nat

namespace StepPath

def text (path : StepPath) : String := ".".intercalate (path.map toString)

end StepPath

/-- Why a run ended early. The index is that of the top-level step reached. -/
inductive RunError where
  | stepFailed (index : Nat) (path : String) (kind : StepKind) (cause : StepFailure)
  | sessionLost (index : Nat) (path : String) (kind : StepKind)
  | cancelled (index : Nat)
  /-- No session could be had. -/
  | setup (reason : String)
  deriving DecidableEq, Repr

namespace RunError

def message : RunError → String
  | stepFailed _ path kind cause => s!"step {path} ({kind.name}) failed: {cause.message}"
  | sessionLost _ path kind => s!"session lost during step {path} ({kind.name})"
  | cancelled index => s!"cancelled before step {index}"
  | setup reason => s!"could not attach: {reason}"

def code : RunError → ResultCode
  | stepFailed _ _ _ (.notFound _) => .notFound
  | stepFailed _ _ _ _ => .stepFailed
  | sessionLost _ _ _ | setup _ => .sessionLost
  | cancelled _ => .cancelled

def stepIndex : RunError → Option Nat
  | stepFailed index _ _ _ | sessionLost index _ _ | cancelled index => some index
  | setup _ => none

def stepPath : RunError → Option String
  | stepFailed _ path _ _ | sessionLost _ path _ => some path
  | _ => none

def stepKind : RunError → Option StepKind
  | stepFailed _ _ kind _ | sessionLost _ _ kind => some kind
  | _ => none

end RunError

/-- Told after every completed step. -/
structure ProgressEvent where
  scriptId : String
  /-- The index of the top-level step. -/
  stepIndex : UInt64
  path : String
  kind : StepKind
  deriving DecidableEq, Repr, Inhabited

namespace ProgressEvent

open Json in
def decoder : Decoder ProgressEvent :=
  .record "struct ProgressEvent"
    (Fields.done ProgressEvent.mk
      |>.and (.required "scriptId" .string)
      |>.and (.required "stepIndex" .index)
      |>.and (.required "path" .string)
      |>.and (.required "kind" StepKind.decoder))

def toJson (event : ProgressEvent) : Json :=
  .ofMembers [("scriptId", .str event.scriptId), ("stepIndex", .ofNat event.stepIndex.toNat),
    ("path", .str event.path), ("kind", .str event.kind.name)]

end ProgressEvent

/-- The report of a run. -/
structure RunResult where
  success : Bool
  code : ResultCode
  /-- The target it ran against. -/
  tabId : Option String
  error : Option String
  stepIndex : Option UInt64
  stepPath : Option String
  stepKind : Option StepKind
  /-- Completed steps, nested ones included. -/
  stepsExecuted : UInt64
  durationMs : UInt64
  deriving DecidableEq, Repr, Inhabited

namespace RunResult

/-- A failure before any step. -/
def failed (code : ResultCode) (error : String) : RunResult :=
  { success := false, code, tabId := none, error := some error, stepIndex := none, stepPath := none
    stepKind := none, stepsExecuted := 0, durationMs := 0 }

/-- The report of a run that ended as `outcome` after so many completed steps. -/
def report (target : String) (outcome : Except RunError Unit) (stepsExecuted durationMs : Nat) :
    RunResult :=
  let steps := stepsExecuted.toUInt64
  let duration := durationMs.toUInt64
  match outcome with
  | .ok () =>
    { success := true, code := .success, tabId := some target, error := none, stepIndex := none
      stepPath := none, stepKind := none, stepsExecuted := steps, durationMs := duration }
  | .error error =>
    { success := false, code := error.code, tabId := some target, error := some error.message
      stepIndex := error.stepIndex.map Nat.toUInt64, stepPath := error.stepPath
      stepKind := error.stepKind, stepsExecuted := steps, durationMs := duration }

open Json in
def decoder : Decoder RunResult :=
  .record "struct ExecutionResult"
    (Fields.done RunResult.mk
      |>.and (.required "success" .bool)
      |>.and (.required "code" ResultCode.decoder)
      |>.and (.optional "tabId" .string)
      |>.and (.optional "error" .string)
      |>.and (.optional "stepIndex" .index)
      |>.and (.optional "stepPath" .string)
      |>.and (.optional "stepKind" StepKind.decoder)
      |>.and (.required "stepsExecuted" .index)
      |>.and (.required "durationMs" .uint64))

def members (result : RunResult) : List (String × Json) :=
  [("success", .bool result.success), ("code", .str result.code.name),
    ("tabId", .ofOption .str result.tabId), ("error", .ofOption .str result.error),
    ("stepIndex", .ofOption (fun index => .ofNat index.toNat) result.stepIndex),
    ("stepPath", .ofOption .str result.stepPath),
    ("stepKind", .ofOption (fun kind => .str kind.name) result.stepKind),
    ("stepsExecuted", .ofNat result.stepsExecuted.toNat),
    ("durationMs", .ofNat result.durationMs.toNat)]

def toJson (result : RunResult) : Json := .ofMembers result.members

end RunResult

end BrowserScript

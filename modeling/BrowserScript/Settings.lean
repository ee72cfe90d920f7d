import BrowserScript.Yaml.Part
import BrowserScript.Text.Blank
import BrowserScript.Script.Basic

/-!
# Settings

Time limits and intervals, and which elements count as clickable. Every setting has a default.
Settings are read from YAML.
-/

namespace BrowserScript

structure SessionSettings where
  /-- The pause before the one attempt to attach again after an unexpected detach. -/
  reattachBackoffMs : UInt64 := 100
  /-- How long to wait for a freshly attached page to be ready. -/
  readyTimeoutMs : UInt64 := 10000
  /-- How long a step waits for its session to come back. -/
  recoverTimeoutMs : UInt64 := 5000
  deriving DecidableEq, Repr, Inhabited

structure RelaySettings where
  /-- A request is given up after this long. -/
  timeoutMs : UInt64 := 300000
  /-- How often requests are checked for being too old. -/
  sweepIntervalMs : UInt64 := 1000
  reconnectAttempts : UInt32 := 5
  reconnectBackoffMs : UInt64 := 250
  deriving DecidableEq, Repr, Inhabited

/-- What makes an element count as clickable. -/
structure ClickableSettings where
  /-- How far up from an element to look for a clickable one. -/
  maxDepth : UInt32 := 10
  tags : List String :=
    ["a", "button", "input", "select", "textarea", "label", "summary", "option"]
  roles : List String :=
    ["button", "link", "menuitem", "option", "tab", "checkbox", "radio", "switch", "treeitem"]
  /-- Parts of class names and data attributes. -/
  keywords : List String := ["btn", "button", "clickable", "link", "card", "item"]
  deriving DecidableEq, Repr, Inhabited

structure Settings where
  /-- The time limit of steps that wait, unless a step sets its own. -/
  defaultTimeoutMs : UInt64 := 10000
  /-- The interval of waits and lookups. -/
  pollIntervalMs : UInt64 := 100
  /-- A pause between steps. -/
  stepDelayMs : UInt64 := 0
  /-- Whether a session is kept when a script has ended. -/
  keepAlive : Bool := true
  session : SessionSettings := {}
  relay : RelaySettings := {}
  clickable : ClickableSettings := {}
  deriving DecidableEq, Repr, Inhabited

open Yaml

namespace SessionSettings

def ofPart (part : Part) : Option SessionSettings := do
  let entries ← part.record?
  some {
    reattachBackoffMs := ← Part.field entries "reattach_backoff_ms" Part.uint64? 100
    readyTimeoutMs := ← Part.field entries "ready_timeout_ms" Part.uint64? 10000
    recoverTimeoutMs := ← Part.field entries "recover_timeout_ms" Part.uint64? 5000 }

end SessionSettings

namespace RelaySettings

def ofPart (part : Part) : Option RelaySettings := do
  let entries ← part.record?
  some {
    timeoutMs := ← Part.field entries "timeout_ms" Part.uint64? 300000
    sweepIntervalMs := ← Part.field entries "sweep_interval_ms" Part.uint64? 1000
    reconnectAttempts := ← Part.field entries "reconnect_attempts" Part.uint32? 5
    reconnectBackoffMs := ← Part.field entries "reconnect_backoff_ms" Part.uint64? 250 }

/-- The interval between sweeps; never zero. -/
def sweepInterval (relay : RelaySettings) : Nat := max relay.sweepIntervalMs.toNat 1

end RelaySettings

namespace ClickableSettings

def ofPart (part : Part) : Option ClickableSettings := do
  let entries ← part.record?
  let texts := Part.list? Part.text?
  let defaults : ClickableSettings := {}
  some {
    maxDepth := ← Part.field entries "max_depth" Part.uint32? defaults.maxDepth
    tags := ← Part.field entries "tags" texts defaults.tags
    roles := ← Part.field entries "roles" texts defaults.roles
    keywords := ← Part.field entries "keywords" texts defaults.keywords }

end ClickableSettings

namespace Settings

def ofPart (part : Part) : Option Settings := do
  let entries ← part.record?
  some {
    defaultTimeoutMs := ← Part.field entries "default_timeout_ms" Part.uint64? 10000
    pollIntervalMs := ← Part.field entries "poll_interval_ms" Part.uint64? 100
    stepDelayMs := ← Part.field entries "step_delay_ms" Part.uint64? 0
    keepAlive := ← Part.field entries "keep_alive" Part.bool? true
    session := ← Part.field entries "session" SessionSettings.ofPart {}
    relay := ← Part.field entries "relay" RelaySettings.ofPart {}
    clickable := ← Part.field entries "clickable" ClickableSettings.ofPart {} }

/-- Settings from a text; blanks alone give the defaults. -/
def parse (text : String) : Except LoadError Settings :=
  if Text.isBlankText text then .ok {}
  else
    match (Document.ofText text).part?.bind ofPart with
    | some settings => .ok settings
    | none => .error (.yaml none)

/-- The interval of waits and lookups; never zero. -/
def pollInterval (settings : Settings) : Nat := max settings.pollIntervalMs.toNat 1

def defaultTimeout (settings : Settings) : Nat := settings.defaultTimeoutMs.toNat

end Settings

/-- A script from its YAML text. -/
def Script.parseYaml (text : String) : Except LoadError Script :=
  match Yaml.json text with
  | .ok value => Script.ofJson value
  | .error error => .error (.yaml (some error))

/-- How a browser is started. -/
structure LaunchConfig where
  headless : Bool := false
  proxy : Option String := none
  userAgent : Option String := none
  viewportWidth : UInt32 := 1280
  viewportHeight : UInt32 := 720
  /-- The page opened first. -/
  startUrl : String := "about:blank"
  deriving DecidableEq, Repr, Inhabited

namespace LaunchConfig

def ofPart (part : Part) : Option LaunchConfig := do
  let entries ← part.record?
  let optionalText := Part.optional? Part.text?
  some {
    headless := ← Part.field entries "headless" Part.bool? false
    proxy := ← Part.field entries "proxy" optionalText none
    userAgent := ← Part.field entries "user_agent" optionalText none
    viewportWidth := ← Part.field entries "viewport_width" Part.uint32? 1280
    viewportHeight := ← Part.field entries "viewport_height" Part.uint32? 720
    startUrl := ← Part.field entries "start_url" Part.text? "about:blank" }

def parse (text : String) : Except LoadError LaunchConfig :=
  match (Document.ofText text).part?.bind ofPart with
  | some config => .ok config
  | none => .error (.yaml none)

end LaunchConfig

end BrowserScript

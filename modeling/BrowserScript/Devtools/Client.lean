import BrowserScript.Program
import BrowserScript.Text.Within
import BrowserScript.Devtools.Message

/-!
# The client

How the calls a session manager and a script make are carried out through commands of the
remote-debugging protocol.
-/

namespace BrowserScript

namespace Devtools

/-- What the client asks of the connection. -/
inductive Request where
  /-- Sends a command and waits for its answer. -/
  | call (method : String) (params : Option Json) (session : Option String)
  | register (session target : String)
  | unregister (session : String)
  deriving DecidableEq, Repr

def Request.Answer : Request → Type
  | call _ _ _ => Except PageError Json
  | register _ _ => Unit
  | unregister _ => Unit

end Devtools

abbrev DevtoolsProgram (α : Type) : Type := Program Devtools.Request Devtools.Request.Answer α

namespace Devtools

def send (method : String) (params : Option Json) (session : Option String) :
    DevtoolsProgram (Except PageError Json) :=
  Program.request (Request.call method params session)

/-- A command is given up after this long. -/
def commandTimeout : Nat := 30000

/-- The refusal to attach to a target that does not exist. -/
def attachError (target : String) : PageError → PageError
  | .refused code reason =>
    if Text.contains reason "No target" then .targetNotFound target
    else .refused code reason
  | error => error

/-- Attaches to a target and makes the session tell what happens in its page. -/
def attach (target : String) : DevtoolsProgram (Except PageError String) := do
  let params := Json.ofMembers [("targetId", .str target), ("flatten", .bool true)]
  match ← send "Target.attachToTarget" (some params) none with
  | .error error => return .error (attachError target error)
  | .ok result =>
    match (result.field "sessionId").string? with
    | none => return .error (.evaluation "attach returned no sessionId")
    | some session =>
      Program.request (Request.register session target)
      match ← send "Page.enable" none (some session) with
      | .error error => return .error error
      | .ok _ =>
        match ← send "Runtime.enable" none (some session) with
        | .error error => return .error error
        | .ok _ => return .ok session

def detach (session : String) : DevtoolsProgram (Except PageError Unit) := do
  Program.request (Request.unregister session)
  let params := Json.ofMembers [("sessionId", .str session)]
  return (← send "Target.detachFromTarget" (some params) none).map fun _ => ()

/-- What an evaluation says: a value, or that something was thrown. -/
def evaluated (result : Json) : Except PageError Json :=
  match result.field? "exceptionDetails" with
  | some details =>
    let description := ((details.field "exception").field "description").string?
    .error (.evaluation ((description.or (details.field "text").string?).getD "uncaught exception"))
  | none => .ok ((result.field "result").field "value")

def evaluate (session expression : String) : DevtoolsProgram (Except PageError Json) := do
  let params := Json.ofMembers [("expression", .str expression), ("returnByValue", .bool true),
    ("awaitPromise", .bool true)]
  return (← send "Runtime.evaluate" (some params) (some session)).bind evaluated

/-- The key code and the text of keys that need them to have their usual effect. -/
def keyDefinition (key : String) : Option Nat × Option String :=
  match key with
  | "Enter" => (some 13, some "\r")
  | "Tab" => (some 9, none)
  | "Backspace" => (some 8, none)
  | "Escape" => (some 27, none)
  | "Delete" => (some 46, none)
  | "ArrowLeft" => (some 37, none)
  | "ArrowUp" => (some 38, none)
  | "ArrowRight" => (some 39, none)
  | "ArrowDown" => (some 40, none)
  | "Home" => (some 36, none)
  | "End" => (some 35, none)
  | "PageUp" => (some 33, none)
  | "PageDown" => (some 34, none)
  | " " | "Space" => (some 32, some " ")
  | key => if key.length = 1 then (none, some key) else (none, none)

def keyParams (down : Bool) (key : String) : Json :=
  let (code, text) := keyDefinition key
  .ofMembers ([("type", Json.str (if down then "keyDown" else "keyUp")), ("key", .str key)] ++
    (code.map fun code => ("windowsVirtualKeyCode", Json.ofNat code)).toList ++
    (if down then (text.map fun text => ("text", Json.str text)).toList else []))

def mouseParams (type : String) (x y : Binary64) (more : List (String × Json)) : Json :=
  .ofMembers ([("type", Json.str type), ("x", .ofBinary64 x), ("y", .ofBinary64 y)] ++ more)

def pressed (button : MouseButton) (clickCount : UInt32) : List (String × Json) :=
  [("button", .str button.name), ("clickCount", .ofNat clickCount.toNat)]

/-- The command for a piece of input, and its parameters. -/
def inputCommand : InputEvent → String × Json
  | .mouseMove x y => ("Input.dispatchMouseEvent", mouseParams "mouseMoved" x y [])
  | .mouseDown x y button clickCount =>
    ("Input.dispatchMouseEvent", mouseParams "mousePressed" x y (pressed button clickCount))
  | .mouseUp x y button clickCount =>
    ("Input.dispatchMouseEvent", mouseParams "mouseReleased" x y (pressed button clickCount))
  | .keyDown key => ("Input.dispatchKeyEvent", keyParams true key)
  | .keyUp key => ("Input.dispatchKeyEvent", keyParams false key)
  | .insertText text => ("Input.insertText", .ofMembers [("text", .str text)])

/-- What a navigation says: it may have failed although the command did not. -/
def navigated (url : String) (result : Json) : Except PageError Json :=
  match (result.field "errorText").string? with
  | some reason => if reason.isEmpty then .ok .null else .error (.navigation s!"{url}: {reason}")
  | none => .ok .null

/-- Carries out a page call. -/
def page (session : String) : PageCall → DevtoolsProgram (Except PageError Json)
  | .evaluate expression => evaluate session expression
  | .apply function argument => evaluate session (Page.application function argument)
  | .input event => do
    let (method, params) := inputCommand event
    return (← send method (some params) (some session)).map fun _ => .null
  | .navigate url => do
    let params := Json.ofMembers [("url", .str url)]
    return (← send "Page.navigate" (some params) (some session)).bind (navigated url)
  | .resize viewport => do
    return (← send "Emulation.setDeviceMetricsOverride" (some viewport.toJson) (some session)).map
      fun _ => .null

/-- The pages the browser offers. -/
def pageTargets : DevtoolsProgram (Except PageError (List TargetInfo)) := do
  match ← send "Target.getTargets" none none with
  | .error error => return .error error
  | .ok result =>
    match (Json.Decoder.list TargetInfo.decoder).readValue (result.field "targetInfos") with
    | .ok targets => return .ok (targets.filter fun target => target.type == "page")
    | .error error => return .error (.unreadable error.message)

/-- Makes the browser tell of its targets. -/
def greet : DevtoolsProgram (Except PageError Json) :=
  send "Target.setDiscoverTargets" (some (.ofMembers [("discover", .bool true)])) none

end Devtools

end BrowserScript

import BrowserScript.Devtools.Connection
import BrowserScript.Devtools.Client
import BrowserScript.Simulation.Browser

/-!
# Simulated clients

What session managers and scripts talk to in a simulation: a browser in memory, or a connection to a
scripted server. Answers can be laid down in front of the browser. Main definitions:
`Injection.answer?`, `Server.answer`.
-/

namespace BrowserScript.Simulation

/-- A call on the client. All answers are values: a session is a text, and `null` says nothing. -/
inductive ClientCall where
  | attach (target : String)
  | detach (session : String)
  | page (session : String) (call : PageCall)
  | command (method : String) (params : Option Json) (session : Option String)
  | pageTargets
  /-- The first call of all. -/
  | greet
  deriving DecidableEq, Repr

/-- The kinds of calls that answers can be laid down for. -/
inductive CallKind where
  | attach
  | detach
  | evaluate
  | call
  | input
  | navigate
  | viewport
  deriving DecidableEq, Repr

namespace CallKind

def name : CallKind → String
  | attach => "attach"
  | detach => "detach"
  | evaluate => "evaluate"
  | call => "call"
  | input => "input"
  | navigate => "navigate"
  | viewport => "viewport"

def all : List CallKind := [attach, detach, evaluate, call, input, navigate, viewport]

end CallKind

def inputName : InputEvent → String
  | .mouseMove _ _ => "mouseMove"
  | .mouseDown _ _ _ _ => "mouseDown"
  | .mouseUp _ _ _ _ => "mouseUp"
  | .keyDown _ => "keyDown"
  | .keyUp _ => "keyUp"
  | .insertText _ => "insertText"

/-- The kind of a page call, and what it is about. -/
def pageSubject : PageCall → CallKind × String
  | .evaluate expression => (.evaluate, expression)
  | .apply _ argument =>
    let op := (argument.field "op").string?.getD ""
    (.call, if op = "resolve" then (argument.field "selector").string?.getD "" else op)
  | .input event => (.input, inputName event)
  | .navigate url => (.navigate, url)
  | .resize _ => (.viewport, "")

def subject? : ClientCall → Option (CallKind × String)
  | .attach target => some (.attach, target)
  | .detach session => some (.detach, session)
  | .page _ call => some (pageSubject call)
  | .command _ _ _ | .pageTargets | .greet => none

/-- An answer laid down for some calls. -/
structure Injection where
  kind : CallKind
  /-- Only calls about this. -/
  subject : Option String
  /-- So many calls are passed over first. -/
  skip : Nat
  /-- So many calls are answered. -/
  times : Nat
  answer : Except PageError Json

namespace Injection

def concerns (rule : Injection) (kind : CallKind) (subject : String) : Bool :=
  rule.kind == kind && rule.subject.all (· == subject)

/-- The answer of the first rule that has one, with what is left of the rules. -/
def answerFor (kind : CallKind) (subject : String) :
    List Injection → List Injection × Option (Except PageError Json)
  | [] => ([], none)
  | rule :: rest =>
    let passOn (rule : Injection) :=
      let (rest, answer) := answerFor kind subject rest
      (rule :: rest, answer)
    if !rule.concerns kind subject then passOn rule
    else if rule.times = 0 then passOn rule
    else if rule.skip ≠ 0 then passOn { rule with skip := rule.skip - 1 }
    else ({ rule with times := rule.times - 1 } :: rest, some rule.answer)

def answer? (rules : List Injection) (call : ClientCall) :
    List Injection × Option (Except PageError Json) :=
  match subject? call with
  | some (kind, subject) => answerFor kind subject rules
  | none => (rules, none)

end Injection

/-! ## A scripted server -/

/-- What arrives at the client. -/
inductive Arrival where
  | text (text : String)
  /-- Something the client has no use for. -/
  | other
  /-- The end of the connection. -/
  | closed
  deriving DecidableEq, Repr

inductive Reaction where
  | reply
  | silent
  /-- Ends the connection. -/
  | close
  deriving DecidableEq, Repr

structure ServerRule where
  method : String
  /-- Only commands whose expression contains this. -/
  contains : Option String
  times : Nat
  /-- Sent first. -/
  before : List Arrival
  result : Option Json
  error : Option Json
  reaction : Reaction
  /-- The reply is held back until after the next one. -/
  hold : Bool
  deriving Repr

structure Server where
  rules : List ServerRule
  held : List String
  /-- What the server has been sent, the latest first. -/
  requests : List Json
  deriving Repr

namespace Server

/-- An expression with names in place of the page functions. -/
def shortened (expression : String) : String :=
  (expression.replace Page.resolveFunction "<RESOLVE_JS>").replace Page.actionFunction "<ACTION_JS>"

def shortenedParams : Json → Json
  | .obj members => .obj (members.map fun entry =>
      match entry with
      | ("expression", .str expression) => ("expression", .str (shortened expression))
      | entry => entry)
  | params => params

def matching (rule : ServerRule) (method : String) (params : Option Json) : Bool :=
  rule.method == method && rule.times != 0 &&
    match rule.contains with
    | none => true
    | some part =>
      match (params.getD .null).field "expression" with
      | .str expression => Text.contains expression part
      | _ => false

/-- The first rule for a command, used once. -/
def takeRule (method : String) (params : Option Json) :
    List ServerRule → List ServerRule × Option ServerRule
  | [] => ([], none)
  | rule :: rest =>
    if matching rule method params then ({ rule with times := rule.times - 1 } :: rest, some rule)
    else
      let (rest, found) := takeRule method params rest
      (rule :: rest, found)

def reply (id : UInt64) (result error : Option Json) : String :=
  (Json.ofMembers ([("id", Json.ofNat id.toNat)] ++
    (result.map fun result => ("result", result)).toList ++
    (error.map fun error => ("error", error)).toList)).text

/-- Takes a command; says what arrives at the client. -/
def answer (s : Server) (command : Devtools.Command) : Server × List Arrival :=
  let params := command.params.map shortenedParams
  let s := { s with requests := { command with params }.toJson :: s.requests }
  let (rules, rule) := takeRule command.method params s.rules
  let s := { s with rules }
  match rule with
  | none =>
    ({ s with held := [] }, .text (reply command.id (some (.obj [])) none) :: s.held.map .text)
  | some rule =>
    let text := reply command.id rule.result rule.error
    match rule.reaction with
    | .silent => (s, rule.before)
    | .close => (s, rule.before ++ [.closed])
    | .reply =>
      if rule.hold then ({ s with held := s.held ++ [text] }, rule.before)
      else ({ s with held := [] }, rule.before ++ .text text :: s.held.map .text)

end Server

/-- The client's end of a connection to a scripted server. -/
structure Channel where
  connection : Devtools.Connection
  server : Server
  /-- What has arrived and is not taken in yet. -/
  arrivals : List Arrival
  /-- Results of commands that have not been fetched yet. -/
  results : List (Devtools.CallId × Except PageError Json)

inductive Client where
  | browser (browser : Browser) (injections : List Injection)
  | channel (channel : Channel)

namespace ClientCall

/-- How a call is carried out over a connection. -/
def program : ClientCall → DevtoolsProgram (Except PageError Json)
  | attach target => do return (← Devtools.attach target).map Json.str
  | detach session => do return (← Devtools.detach session).map fun _ => Json.null
  | page session call => Devtools.page session call
  | command method params session => Devtools.send method params session
  | greet => Devtools.greet
  | pageTargets => do
    return (← Devtools.pageTargets).map fun targets => .arr (targets.map fun target =>
      .arr [.str target.targetId, .str target.type, .str target.title, .str target.url])

/-- How the browser in memory answers. -/
def answer (b : Browser) : ClientCall → Browser × List SessionEvent × Except PageError Json
  | attach target =>
    let (b, answer) := b.attach target
    (b, [], answer.map Json.str)
  | detach session => (b.detach session, [], .ok .null)
  | page session call => b.call session call
  | command _ _ _ | pageTargets | greet => (b, [], .ok .null)

end ClientCall

end BrowserScript.Simulation

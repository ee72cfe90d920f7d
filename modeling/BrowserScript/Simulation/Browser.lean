import BrowserScript.Page.Call

/-!
# A browser in memory

A browser with a single page, whose elements are keyed by the very selector that finds them. It
keeps a log of what it is asked, and can be told to fail. Main definitions: `Browser.attach`,
`Browser.detach` and `Browser.call`, which answer the calls of a session manager and of scripts.
-/

namespace BrowserScript.Simulation

inductive PageElement where
  | mk (tag path : String) (box : Box) (visible : Bool) (text : String)
      (clickableAncestor : Option PageElement)
  deriving Repr, Inhabited

namespace PageElement

def path : PageElement → String
  | mk _ path _ _ _ _ => path

def clickableAncestor : PageElement → Option PageElement
  | mk _ _ _ _ _ ancestor => ancestor

def handle (element : PageElement) : String := s!"ref:{element.path}"

/-- Whether a handle addresses the element or one it lies in. -/
def hasHandle (handle : String) : PageElement → Bool
  | mk _ path _ _ _ none => s!"ref:{path}" == handle
  | mk _ path _ _ _ (some ancestor) => s!"ref:{path}" == handle || hasHandle handle ancestor

/-- The element as a lookup shows it. -/
def toJson : PageElement → Json
  | mk tag path box visible text _ =>
    .ofMembers [("found", .bool true), ("selector", .str path), ("handle", .str s!"ref:{path}"),
      ("tag", .str tag), ("text", .str text), ("visible", .bool visible), ("bbox", box.toJson)]

end PageElement

/-- An entry of the log. -/
inductive Record where
  | evaluate (session expression : String)
  | apply (session op : String) (argument : Json)
  | input (session : String) (event : InputEvent)
  | navigate (session url : String)
  | resize (session : String) (viewport : Viewport)
  deriving DecidableEq, Repr

structure Browser where
  url : String
  bodyText : String
  elements : List (String × PageElement)
  /-- Elements that appear after so many lookups. -/
  laterElements : List (String × Nat × PageElement)
  expressions : List (String × Json)
  /-- Live sessions with their targets. -/
  sessions : List (String × String)
  /-- Sessions made so far. -/
  sessionCount : Nat
  attachCounts : List (String × Nat)
  failingAttach : List String
  failingReady : List String
  detaches : Nat
  /-- So many of the next actions lose their session. -/
  detachOnAction : Nat
  /-- How long an attach takes. -/
  attachDelay : Nat
  /-- Selectors that have been looked up, the latest first. -/
  lookups : List String
  /-- The latest entry first. -/
  log : List Record
  deriving Repr

namespace Browser

def fresh : Browser where
  url := "about:blank"
  bodyText := ""
  elements := []
  laterElements := []
  expressions := []
  sessions := []
  sessionCount := 0
  attachCounts := []
  failingAttach := []
  failingReady := []
  detaches := 0
  detachOnAction := 0
  attachDelay := 0
  lookups := []
  log := []

/-- Puts a binding in the place of an earlier one. -/
def bind {α : Type} (key : String) (value : α) (entries : List (String × α)) :
    List (String × α) :=
  (key, value) :: entries.filter fun entry => entry.1 != key

def unbind {α : Type} (key : String) (entries : List (String × α)) : List (String × α) :=
  entries.filter fun entry => entry.1 != key

def attachCount (b : Browser) (target : String) : Nat := (b.attachCounts.lookup target).getD 0

def record (b : Browser) (entry : Record) : Browser := { b with log := entry :: b.log }

def isLive (b : Browser) (session : String) : Bool := (b.sessions.lookup session).isSome

def removeSession (b : Browser) (session : String) : Browser :=
  { b with sessions := unbind session b.sessions }

/-- Attaches, once the delay is over. -/
def attach (b : Browser) (target : String) : Browser × Except PageError String :=
  let b := { b with attachCounts := bind target (b.attachCount target + 1) b.attachCounts }
  if b.failingAttach.contains target then (b, .error (.targetNotFound target))
  else
    let session := s!"S{b.sessionCount + 1}"
    ({ b with
      sessionCount := b.sessionCount + 1
      sessions := b.sessions ++ [(session, target)] }, .ok session)

def detach (b : Browser) (session : String) : Browser :=
  { b.removeSession session with detaches := b.detaches + 1 }

/-- The value of an expression. -/
def valueOf (b : Browser) (expression : String) : Json :=
  match b.expressions.lookup expression with
  | some value => value
  | none =>
    if expression = Page.readyStateExpression then .str "complete"
    else if expression = Page.locationExpression then .str b.url
    else if expression = Page.bodyTextExpression then .str b.bodyText
    else .null

/-- The page of the session is never ready. -/
def failsReady (b : Browser) (session : String) : Bool :=
  (b.sessions.lookup session).any b.failingReady.contains

def evaluate (b : Browser) (session expression : String) : Browser × Except PageError Json :=
  let b := b.record (.evaluate session expression)
  if expression = Page.readyStateExpression && b.failsReady session then
    (b, .error (.refused (-32000) "Execution context was destroyed"))
  else (b, .ok (b.valueOf expression))

/-- The element a selector finds. One that is to appear later comes a lookup nearer. -/
def lookUp (b : Browser) (selector : String) : Browser × Option PageElement :=
  match b.elements.lookup selector with
  | some element => (b, some element)
  | none =>
    match b.laterElements.lookup selector with
    | none => (b, none)
    | some (0, element) =>
      ({ b with
        laterElements := unbind selector b.laterElements
        elements := bind selector element b.elements }, some element)
    | some (left + 1, element) =>
      ({ b with laterElements := bind selector (left, element) b.laterElements }, none)

/-- What the page function for lookups answers. -/
def resolve (b : Browser) (argument : Json) : Browser × Json :=
  let selector := (argument.field "selector").string?.getD ""
  let (b, found) := { b with lookups := selector :: b.lookups }.lookUp selector
  match found with
  | none => (b, .obj [("found", .bool false)])
  | some element =>
    match element.clickableAncestor with
    | some ancestor =>
      (b, if (argument.field "clickable").isNull then element.toJson else ancestor.toJson)
    | none => (b, element.toJson)

/-- The page functions; all but the lookup only say whether the element is there. -/
def apply (b : Browser) (session : String) (argument : Json) : Browser × Except PageError Json :=
  let op := (argument.field "op").string?.getD ""
  let b := b.record (.apply session op argument)
  if op = "resolve" then
    let (b, answer) := b.resolve argument
    (b, .ok answer)
  else
    match (argument.field "handle").string? with
    | some handle => (b, .ok (.bool (b.elements.any fun entry => entry.2.hasHandle handle)))
    | none => (b, .ok (.bool true))

/-- Loses the session of an action if the browser has been told to. -/
def dropOnAction (b : Browser) (session : String) : Browser × List SessionEvent × Bool :=
  match b.detachOnAction with
  | 0 => (b, [], false)
  | left + 1 =>
    let events := (b.sessions.lookup session).toList.map fun target =>
      SessionEvent.detached target session "injected"
    ({ b.removeSession session with detachOnAction := left }, events, true)

/-- An action on a live session, unless it loses the session. -/
def action (b : Browser) (session : String) (act : Browser → Browser) :
    Browser × List SessionEvent × Except PageError Json :=
  let (b, events, dropped) := b.dropOnAction session
  if dropped then (b, events, .error (.sessionDetached session))
  else (act b, [], .ok .null)

/-- Answers a page call; says which events it causes. -/
def call (b : Browser) (session : String) (call : PageCall) :
    Browser × List SessionEvent × Except PageError Json :=
  if !b.isLive session then (b, [], .error (.sessionDetached session))
  else
    match call with
    | .evaluate expression =>
      let (b, answer) := b.evaluate session expression
      (b, [], answer)
    | .apply _ argument =>
      let (b, answer) := b.apply session argument
      (b, [], answer)
    | .input event => b.action session fun b => b.record (.input session event)
    | .navigate url =>
      b.action session fun b => { b with url := url }.record (.navigate session url)
    | .resize viewport => (b.record (.resize session viewport), [], .ok .null)

/-! ## What can be done to the page -/

def closeTarget (b : Browser) (target : String) : Browser × SessionEvent :=
  ({ b with sessions := b.sessions.filter fun entry => entry.2 != target }, .targetClosed target)

/-- Loses a session of a target, if there is one. -/
def loseSession (b : Browser) (target : String) : Browser × Option SessionEvent :=
  match b.sessions.find? fun entry => entry.2 == target with
  | some entry => (b.removeSession entry.1, some (.detached target entry.1 "injected"))
  | none => (b, none)

def inputs (b : Browser) : List InputEvent :=
  b.log.reverse.filterMap fun entry =>
    match entry with
    | .input _ event => some event
    | _ => none

def navigations (b : Browser) : List String :=
  b.log.reverse.filterMap fun entry =>
    match entry with
    | .navigate _ url => some url
    | _ => none

/-- The arguments of all calls of one kind. -/
def applications (b : Browser) (name : String) : List Json :=
  b.log.reverse.filterMap fun entry =>
    match entry with
    | .apply _ op argument => if op = name then some argument else none
    | _ => none

end Browser

end BrowserScript.Simulation

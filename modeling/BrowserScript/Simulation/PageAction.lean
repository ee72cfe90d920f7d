import BrowserScript.Simulation.World

/-!
# The hand on the page

What can be done at once to the browser in memory, and what can be read off it. Main definition:
`World.act`.
-/

namespace BrowserScript.Simulation

inductive PageAction where
  | addElement (selector : String) (element : PageElement)
  /-- An element that so many lookups do not find yet. -/
  | addElementLater (selector : String) (lookups : Nat) (element : PageElement)
  | removeElement (selector : String)
  | setBodyText (text : String)
  | setExpression (expression : String) (value : Json)
  | setAttachDelay (ms : Nat)
  | failAttach (target : String)
  | failReady (target : String)
  | closeTarget (target : String)
  /-- So many of the next actions lose their session. -/
  | detachOnNext (count : Nat)
  | emitDetach (target : String)
  | inject (rule : Injection)
  | readUrl
  | readLookups
  | readApplications (name : String)
  | readInputs
  | readNavigations

inductive PageAnswer where
  | nothing
  | text (text : String)
  | texts (texts : List String)
  | values (values : List Json)
  | inputs (events : List InputEvent)
  deriving DecidableEq, Repr

namespace PageAction

/-- The browser afterwards, the events that follow, and what has been read. -/
def carryOut (b : Browser) : PageAction → Browser × List SessionEvent × PageAnswer
  | addElement selector element =>
    ({ b with elements := Browser.bind selector element b.elements }, [], .nothing)
  | addElementLater selector lookups element =>
    ({ b with laterElements := Browser.bind selector (lookups, element) b.laterElements }, [], .nothing)
  | removeElement selector => ({ b with elements := Browser.unbind selector b.elements }, [], .nothing)
  | setBodyText text => ({ b with bodyText := text }, [], .nothing)
  | setExpression expression value =>
    ({ b with expressions := Browser.bind expression value b.expressions }, [], .nothing)
  | setAttachDelay ms => ({ b with attachDelay := ms }, [], .nothing)
  | failAttach target => ({ b with failingAttach := target :: b.failingAttach }, [], .nothing)
  | failReady target => ({ b with failingReady := target :: b.failingReady }, [], .nothing)
  | closeTarget target =>
    let (b, event) := b.closeTarget target
    (b, [event], .nothing)
  | detachOnNext count => ({ b with detachOnAction := count }, [], .nothing)
  | emitDetach target =>
    let (b, event) := b.loseSession target
    (b, event.toList, .nothing)
  | inject _ => (b, [], .nothing)
  | readUrl => (b, [], .text b.url)
  | readLookups => (b, [], .texts b.lookups.reverse)
  | readApplications name => (b, [], .values (b.applications name))
  | readInputs => (b, [], .inputs b.inputs)
  | readNavigations => (b, [], .texts b.navigations)

/-- The rules laid down afterwards; a later one comes last. -/
def addRule (rules : List Injection) : PageAction → List Injection
  | inject rule => rules ++ [rule]
  | _ => rules

end PageAction

/-- Does something to the browser in memory, if that is the client. -/
def World.act (w : World) (action : PageAction) : World × PageAnswer :=
  match w.client with
  | .channel _ => (w, .nothing)
  | .browser browser rules =>
    let (browser, events, answer) := action.carryOut browser
    (({ w with client := .browser browser (action.addRule rules) }).emitAll events, answer)

end BrowserScript.Simulation

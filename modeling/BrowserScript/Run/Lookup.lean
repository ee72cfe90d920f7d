import BrowserScript.Settings
import BrowserScript.Run.Request

/-!
# Looking up elements

The selectors of a step are looked up one after the other, and the whole round again after every
interval, until one finds an element or the time is up. Main definitions: `Lookup.round`,
`Lookup.find`.
-/

namespace BrowserScript

/-- An element that has been found. -/
structure Element where
  /-- The selector that found it. -/
  matchedBy : String
  tag : String
  path : String
  /-- Addresses the element in later calls. -/
  handle : String
  box : Box
  visible : Bool
  text : String
  deriving DecidableEq, Repr

inductive LookupError where
  | notFound (selectors : String) (waitedMs : Nat)
  | page (error : PageError)
  deriving DecidableEq, Repr

namespace LookupError

def message : LookupError → String
  | notFound selectors waitedMs => s!"no element matched {selectors} within {waitedMs}ms"
  | page error => error.message

/-- What it means for the step that looked. -/
def failure : LookupError → StepFailure
  | notFound selectors _ => .notFound selectors
  | page error => .ofPageError error

end LookupError

/-- The answer of the page to one lookup. -/
structure LookupAnswer where
  found : Bool
  path : String
  handle : String
  tag : String
  text : String
  visible : Bool
  box : Box
  deriving DecidableEq, Repr

namespace LookupAnswer

open Json in
def decoder : Decoder LookupAnswer :=
  .record "struct Resolved"
    (Fields.done LookupAnswer.mk
      |>.and (.required "found" .bool)
      |>.and (.orDefault "selector" .string "")
      |>.and (.orDefault "handle" .string "")
      |>.and (.orDefault "tag" .string "")
      |>.and (.orDefault "text" .string "")
      |>.and (.orDefault "visible" .bool false)
      |>.and (.orDefault "bbox" Box.decoder Box.zero))

/-- The answer as it stands in a value of the page. -/
def ofJson (value : Json) : Except PageError LookupAnswer :=
  match decoder.readValue value with
  | .ok answer => .ok answer
  | .error error => .error (.unreadable error.message)

def element (answer : LookupAnswer) (selector : String) : Element where
  matchedBy := selector
  tag := answer.tag
  path := answer.path
  handle := answer.handle
  box := answer.box
  visible := answer.visible
  text := answer.text

end LookupAnswer

/-- How to look. -/
structure Lookup where
  /-- Take the clickable element around the match. -/
  clickable : Option ClickableSettings
  /-- Only a visible match counts. -/
  visible : Bool
  /-- The time between two rounds; not zero. -/
  interval : Nat
  deriving DecidableEq, Repr

namespace Lookup

def clickableJson (settings : ClickableSettings) : Json :=
  .ofMembers [("tags", .arr (settings.tags.map .str)), ("roles", .arr (settings.roles.map .str)),
    ("keywords", .arr (settings.keywords.map .str)), ("maxDepth", .ofNat settings.maxDepth.toNat)]

/-- The argument of the lookup function for one selector. -/
def argument (lookup : Lookup) (selector : String) : Json :=
  let (strategy, value) := Strategy.split selector
  .ofMembers [("op", .str "resolve"), ("selector", .str selector),
    ("strategy", .str strategy.name), ("value", .str value),
    ("clickable", .ofOption clickableJson lookup.clickable)]

def call (lookup : Lookup) (selector : String) : PageCall :=
  .apply Page.resolveFunction (lookup.argument selector)

/-- Whether an answer ends the search. -/
def accepts (lookup : Lookup) (answer : LookupAnswer) : Bool :=
  answer.found && (!lookup.visible || answer.visible)

/-- Looks for each selector in order, up to the first match. -/
def round (lookup : Lookup) (session : String) :
    List String → RunProgram (Except PageError (Option Element))
  | [] => return .ok none
  | selector :: rest => do
    match ← Run.page session (lookup.call selector) with
    | .error error => return .error error
    | .ok value =>
      match LookupAnswer.ofJson value with
      | .error error => return .error error
      | .ok answer =>
        if lookup.accepts answer then return .ok (some (answer.element selector))
        else round lookup session rest

/-- A round, and what to do when it finds nothing. -/
def roundOr (lookup : Lookup) (session : String) (selectors : Selectors)
    (otherwise : Nat → RunProgram (Except LookupError Element)) :
    RunProgram (Except LookupError Element) := do
  match ← lookup.round session selectors.inOrder with
  | .error error => return .error (.page error)
  | .ok (some element) => return .ok element
  | .ok none => otherwise (← Run.now)

/-- Goes on looking while there is time for another round, for `left` more rounds at most. -/
def rounds (lookup : Lookup) (session : String) (selectors : Selectors) (started timeout : Nat) :
    (left : Nat) → RunProgram (Except LookupError Element)
  | 0 => lookup.roundOr session selectors fun time =>
    return .error (.notFound selectors.shown (time - started))
  | left + 1 => lookup.roundOr session selectors fun time =>
    if started + timeout < time + lookup.interval then
      return .error (.notFound selectors.shown (time - started))
    else do
      Run.sleep lookup.interval
      rounds lookup session selectors started timeout left

/-- The element that the selectors find within the time limit. -/
def find (lookup : Lookup) (session : String) (selectors : Selectors) (timeout : Nat) :
    RunProgram (Except LookupError Element) := do
  let started ← Run.now
  lookup.rounds session selectors started timeout (timeout / lookup.interval)

/-- What the selectors find right now. -/
def probe (interval : Nat) (session : String) (selectors : Selectors) :
    RunProgram (Except PageError (Option Element)) :=
  let lookup : Lookup := ⟨none, false, interval⟩
  lookup.round session selectors.inOrder

end Lookup

end BrowserScript

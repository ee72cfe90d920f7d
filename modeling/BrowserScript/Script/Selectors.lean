import BrowserScript.Json.Decoder

/-!
# Selectors

A selector says in one of several ways how to find an element. A step gives alternatives, each a
list of selectors; they are tried from left to right until one finds something.
-/

namespace BrowserScript

/-- How a selector is understood, chosen by how it begins. -/
inductive Strategy where
  /-- The accessible name, with an optional role. -/
  | aria
  /-- A path through the document. -/
  | xpath
  /-- A style selector that also looks into open shadow trees. -/
  | pierce
  /-- The visible text. -/
  | text
  /-- A style selector. -/
  | css
  deriving DecidableEq, Repr

namespace Strategy

def name : Strategy → String
  | aria => "aria"
  | xpath => "xpath"
  | pierce => "pierce"
  | text => "text"
  | css => "css"

/-- The strategies that a selector may name in front of a slash. -/
def marked : List Strategy := [aria, xpath, pierce, text]

/-- What follows `lead` in a text that begins with it. -/
def after? : List Char → List Char → Option (List Char)
  | [], rest => some rest
  | _ :: _, [] => none
  | c :: lead, d :: rest => if c = d then after? lead rest else none

/-- The strategy of a selector, and the part it applies to. -/
def split (selector : String) : Strategy × String :=
  let marks := marked.filterMap fun strategy =>
    (after? (strategy.name ++ "/").toList selector.toList).map fun rest =>
      (strategy, String.ofList rest)
  marks.headD (css, selector)

end Strategy

/-- Alternatives, each a list of selectors. -/
structure Selectors where
  alternatives : List (List String)
  deriving DecidableEq, Repr, Inhabited

namespace Selectors

def single (selector : String) : Selectors := ⟨[[selector]]⟩

/-- All selectors in the order they are tried. -/
def inOrder (selectors : Selectors) : List String := selectors.alternatives.flatten

/-- No alternative holds a selector. -/
def isEmpty (selectors : Selectors) : Bool := selectors.alternatives.all List.isEmpty

/-- How a message shows the selectors. -/
def shown (selectors : Selectors) : String :=
  "[" ++ ", ".intercalate selectors.inOrder ++ "]"

def alternativeDecoder : Json.Decoder (List String) :=
  .firstOf "Item" [Json.Decoder.string.map fun s => [s], .list .string]

/-- A selector, or a list of selectors and lists of selectors. -/
def decoder : Json.Decoder Selectors :=
  .firstOf "Raw"
    [Json.Decoder.string.map single, (Json.Decoder.list alternativeDecoder).map Selectors.mk]

end Selectors

end BrowserScript

import BrowserScript.Yaml.Token

/-!
# YAML nodes

The tree of a document as far as it can be read. An alias holds the number of an anchor, and which
node has that number is known only at the end of the document: of several it is the last.
-/

namespace BrowserScript.Yaml

/-- Where a node begins, and what stands in front of its content. -/
structure Head where
  mark : Mark
  anchor : Option Nat := none
  tag : Option Tag := none
  deriving DecidableEq, Repr, Inhabited

inductive Node where
  /-- A text without a document. -/
  | void
  | scalar (head : Head) (text : String) (style : Style)
  | sequence (head : Head) (items : List Node)
  | mapping (head : Head) (entries : List (Node × Node))
  | alias (number : Nat)
  /-- Nothing can be read from here on. -/
  | broken (fault : Fault)
  deriving Repr, Inhabited

/-- How much is written, and whether all of it could be read. -/
structure Extent where
  size : Nat
  whole : Bool
  deriving DecidableEq, Repr

namespace Extent

/-- The extent of two parts, the second of which counts only behind a complete one. -/
def and (first second : Extent) : Extent :=
  if first.whole then ⟨first.size + second.size, second.whole⟩ else first

/-- A collection counts for its two ends as well. -/
def enclosed (inside : Extent) : Extent :=
  ⟨inside.size + (if inside.whole then 2 else 1), inside.whole⟩

end Extent

/-- The nodes that have a number, the last ones first. -/
abbrev Anchored := List (Nat × Node)

namespace Node

/-- What stands where nothing is written. -/
def missing (mark : Mark) : Node := scalar { mark } "" .plain

def note (head : Head) (node : Node) (known : Anchored) : Anchored :=
  match head.anchor with
  | some number => (number, node) :: known
  | none => known

mutual

/-- Adds the nodes that have a number, in the order they begin. -/
def anchored : Node → Anchored → Anchored
  | scalar head text style, known => note head (scalar head text style) known
  | sequence head items, known => anchoredItems items (note head (sequence head items) known)
  | mapping head entries, known => anchoredEntries entries (note head (mapping head entries) known)
  | _, known => known

def anchoredItems : List Node → Anchored → Anchored
  | [], known => known
  | item :: rest, known => anchoredItems rest (anchored item known)

def anchoredEntries : List (Node × Node) → Anchored → Anchored
  | [], known => known
  | (key, value) :: rest, known => anchoredEntries rest (anchored value (anchored key known))

end

mutual

/-- The extent of a node. An alias counts for itself alone. -/
def extent : Node → Extent
  | sequence _ items => (itemsExtent items).enclosed
  | mapping _ entries => (entriesExtent entries).enclosed
  | broken _ => ⟨0, false⟩
  | _ => ⟨1, true⟩

def itemsExtent : List Node → Extent
  | [] => ⟨0, true⟩
  | item :: rest => (extent item).and (itemsExtent rest)

def entriesExtent : List (Node × Node) → Extent
  | [] => ⟨0, true⟩
  | (key, value) :: rest => ((extent key).and (extent value)).and (entriesExtent rest)

end

end Node

end BrowserScript.Yaml

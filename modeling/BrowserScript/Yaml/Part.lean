import BrowserScript.Yaml.Reading

/-!
# Parts of known types

Settings are read by what each of them is. A part knows the nodes that its aliases stand for.
-/

namespace BrowserScript.Yaml

structure Part where
  known : Anchored
  node : Node

/-- The content of a text that is sound throughout. -/
def Document.part? (document : Document) : Option Part :=
  match document.ending with
  | .sound => some ⟨document.anchored, document.root⟩
  | _ => none

namespace Part

/-- The node itself, or the one that it is an alias of. -/
def target (part : Part) : Node :=
  match part.node with
  | .alias number => (part.known.lookup number).getD .void
  | node => node

/-- Another part of the same document. -/
def sibling (part : Part) (node : Node) : Part := { part with node }

/-- The text of a scalar, whatever it stands for. -/
def text? (part : Part) : Option String :=
  match part.target with
  | .scalar _ text _ => some text
  | _ => none

/-- An empty plain scalar stands for a collection without elements. -/
def isEmptyPlain (part : Part) : Bool :=
  match part.target with
  | .void => true
  | .scalar _ text style => text.isEmpty && style = .plain
  | _ => false

/-- The entries of a record. -/
def record? (part : Part) : Option (List (String × Part)) :=
  match part.target with
  | .mapping _ entries =>
    entries.mapM fun (key, value) =>
      (part.sibling key).text?.map fun name => (name, part.sibling value)
  | _ => if part.isEmptyPlain then some [] else none

/-- A scalar that may be taken for a number or a truth value. -/
def literal? (tag : String) (part : Part) : Option String :=
  match part.target with
  | .scalar _ text .plain => some text
  | .scalar head text .literal => if head.tag = some (.core tag) then some text else none
  | _ => none

/-- A natural number below `bound`. -/
def natural? (bound : Nat) (part : Part) : Option Nat := do
  let n ← Yaml.natural? (← part.literal? "int").toList
  if n < bound then some n else none

def uint64? (part : Part) : Option UInt64 := (part.natural? UInt64.size).map Nat.toUInt64

def uint32? (part : Part) : Option UInt32 := (part.natural? UInt32.size).map Nat.toUInt32

def bool? (part : Part) : Option Bool := do Yaml.bool? (← part.literal? "bool")

def list? {α : Type} (read : Part → Option α) (part : Part) : Option (List α) :=
  match part.target with
  | .sequence _ items => items.mapM fun item => read (part.sibling item)
  | _ => if part.isEmptyPlain then some [] else none

/-- Whether a null is written here; `none` where a null is demanded but something else written. -/
def isNull? (part : Part) : Option Bool :=
  match part.target with
  | .void => some true
  | .scalar head text .plain =>
    match head.tag with
    | none => some (text.isEmpty || isNullText text)
    | some tag =>
      if tag = .core "null" then (if isNullText text then some true else none) else some false
  | _ => some false

/-- A value that may be left out by writing a null. -/
def optional? {α : Type} (read : Part → Option α) (part : Part) : Option (Option α) := do
  if ← part.isNull? then some none else (read part).map some

/-- A field of a record, or its default. A field that is given twice is refused. -/
def field {α : Type} (entries : List (String × Part)) (name : String) (read : Part → Option α)
    (default : α) : Option α :=
  match entries.filter fun entry => entry.1 == name with
  | [] => some default
  | [(_, part)] => read part
  | _ => none

end Part

end BrowserScript.Yaml

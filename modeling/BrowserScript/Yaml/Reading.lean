import BrowserScript.Json.Mismatch
import BrowserScript.Yaml.Document
import BrowserScript.Yaml.Literal

/-!
# Reading YAML as JSON

Every document without types of its own has a JSON value. Aliases are followed, but not without
end, and a problem is told with the way to where it shows. The first problem counts: what a faulty
text holds before its fault is looked at first.
-/

namespace BrowserScript.Yaml

/-- The way from the root of a document to a part of it. -/
inductive Path where
  | root
  | item (parent : Path) (index : Nat)
  | member (parent : Path) (key : String)
  /-- The value of a key that is no plain text. -/
  | unknown (parent : Path)
  deriving DecidableEq, Repr

namespace Path

mutual

def shown : Path → String
  | root => "."
  | item parent index => parent.shown ++ s!"[{index}]"
  | member parent key => parent.lead ++ key
  | unknown parent => parent.lead ++ "?"

/-- A path in front of a key. -/
def lead : Path → String
  | root => ""
  | item parent index => parent.shown ++ s!"[{index}]."
  | member parent key => parent.lead ++ key ++ "."
  | unknown parent => parent.lead ++ "?."

end

end Path

/-- Why a text has no value of the wanted type. -/
inductive ReadError where
  | fault (cause : Fault)
  /-- The text goes on behind its first document. -/
  | severalDocuments
  | tooDeep (mark : Mark)
  | tooManyAliases
  | data (mismatch : Json.Mismatch) (path : Path) (mark : Mark)
  deriving DecidableEq, Repr

def ReadError.message : ReadError → String
  | fault cause => cause.message
  | severalDocuments =>
    "deserializing from YAML containing more than one document is not supported"
  | tooDeep mark => "recursion limit exceeded" ++ mark.told
  | tooManyAliases => "repetition limit exceeded"
  | data mismatch path mark =>
    let lead := if path = .root then "" else path.shown ++ ": "
    lead ++ mismatch.message ++ mark.told

/-- A reading of parts of a document; the state is how many aliases may still be followed. -/
abbrev Walk (α : Type) := StateT Nat (Except ReadError) α

namespace Node

/-- Containers nested deeper than this are not read. -/
def depthLimit : Nat := 128

/-- Aliases are followed so many times for every part of a document. -/
def aliasAllowance : Nat := 100

/-- The node that an alias stands for. -/
def follow (known : Anchored) : Node → Walk Node
  | .alias number => do
    let left ← get
    if left = 0 then throw .tooManyAliases
    set (left - 1)
    return (known.lookup number).getD .void
  | node => return node

/-- The items of a sequence from an index on. -/
def itemsToJson (read : Path → Node → Walk Json) (path : Path) :
    Nat → List Node → Walk (List Json)
  | _, [] => return []
  | index, item :: rest => do
    let value ← read (.item path index) item
    let values ← itemsToJson read path (index + 1) rest
    return value :: values

/-- A key is taken as it is written. -/
def keyText (known : Anchored) (path : Path) (expected : String) (key : Node) : Walk String := do
  match ← key.follow known with
  | scalar _ text _ => return text
  | sequence head _ => throw (.data (.invalidType .sequence expected) path head.mark)
  | mapping head _ => throw (.data (.invalidType .map expected) path head.mark)
  | broken fault => throw (.fault fault)
  | void | .alias _ => return ""

/-- The way to the value of a key. -/
def placeOf (path : Path) : (key : Node) → Path
  | scalar _ text _ => .member path text
  | _ => .unknown path

/-- The entries of a mapping; `expected` says what the first key has to be. -/
def entriesToJson (known : Anchored) (read : Path → Node → Walk Json) (path : Path) :
    (expected : String) → List (Node × Node) → Walk (List (String × Json))
  | _, [] => return []
  | expected, (key, node) :: rest => do
    let name ← keyText known path expected key
    let value ← read (placeOf path key) node
    let members ← entriesToJson known read path "a string" rest
    return (name, value) :: members

/-- A collection of no type of its own. -/
def collectionToJson (deeper : Option (Path → Node → Walk Json)) (path : Path) (head : Head)
    (read : (Path → Node → Walk Json) → Walk Json) : Walk Json :=
  if head.tag.any Tag.isOwn then
    throw (.data (.invalidType .variant "any valid JSON value") path head.mark)
  else
    match deeper with
    | none => throw (.tooDeep head.mark)
    | some deeper => read deeper

/-- The JSON value of a node whose parts are read by `deeper`. -/
def toJsonWith (known : Anchored) (deeper : Option (Path → Node → Walk Json)) (path : Path)
    (node : Node) : Walk Json := do
  match ← node.follow known with
  | void | .alias _ => return .null
  | broken fault => throw (.fault fault)
  | scalar head text style =>
    match scalarValue text style head.tag with
    | .ok value => return value
    | .error mismatch => throw (.data mismatch path head.mark)
  | sequence head items =>
    collectionToJson deeper path head fun read => return .arr (← itemsToJson read path 0 items)
  | mapping head entries =>
    collectionToJson deeper path head fun read =>
      return .ofMembers (← entriesToJson known read path "a string key" entries)

/-- The JSON value of a node that holds collections at most so deep. -/
def toJson (known : Anchored) : (room : Nat) → Path → Node → Walk Json
  | 0 => toJsonWith known none
  | room + 1 => toJsonWith known (some (toJson known room))

end Node

namespace Document

/-- Refuses a document that does not end well. -/
def checkEnding (document : Document) : Except ReadError Unit :=
  match document.ending with
  | .sound => .ok ()
  | .faulty fault => .error (.fault fault)
  | .followed => .error .severalDocuments

/-- The JSON value of a document. -/
def toJson (document : Document) : Except ReadError Json := do
  let allowance := Node.aliasAllowance * document.root.extent.size
  let (value, _) ←
    (document.root.toJson document.anchored Node.depthLimit .root).run allowance
  document.checkEnding
  return value

end Document

/-- The JSON value of a text. -/
def json (text : String) : Except ReadError Json := (Document.ofText text).toJson

end BrowserScript.Yaml

import BrowserScript.Yaml.Fault

/-!
# YAML tokens

What a text is cut into. Indentation becomes tokens that open and close block collections, and what
stands before a value mark on its line is led by a token for the key.
-/

namespace BrowserScript.Yaml

/-- How a scalar is written. -/
inductive Style where
  | plain
  | singleQuoted
  | doubleQuoted
  | literal
  | folded
  deriving DecidableEq, Repr, Inhabited

/-- Tags are bytes: their escapes need not add up to characters. -/
abbrev Tag := List UInt8

namespace Tag

def ofText (text : String) : Tag := text.toUTF8.toList

/-- What is left of a tag, which a zero byte ends. -/
def upToZero (tag : Tag) : Tag := tag.takeWhile (· ≠ 0)

/-- A tag of one of the types that every document knows. -/
def core (name : String) : Tag := ofText ("tag:yaml.org,2002:" ++ name)

/-- A tag that belongs to no known type: an exclamation mark and a name. -/
def isOwn : Tag → Bool
  | [] => false
  | first :: name => first = 33 && (String.fromUTF8? ⟨name.toArray⟩).isSome

/-- An exclamation mark, whatever follows it. -/
def isLocal (tag : Tag) : Bool := tag.head? = some 33

end Tag

inductive Token where
  | versionDirective (major minor : Nat)
  | tagDirective (handle : String) (lead : Tag)
  | documentStart
  | documentEnd
  | blockSequenceStart
  | blockMappingStart
  | blockEnd
  | flowSequenceStart
  | flowSequenceEnd
  | flowMappingStart
  | flowMappingEnd
  | blockEntry
  | flowEntry
  | key
  | value
  | alias (name : String)
  | anchor (name : String)
  | tag (handle : String) (suffix : Tag)
  | scalar (text : String) (style : Style)
  | streamEnd
  deriving DecidableEq, Repr, Inhabited

/-- A token and the place where it begins. -/
structure Lexeme where
  token : Token
  mark : Mark
  deriving DecidableEq, Repr, Inhabited

/-- The tokens that can be had of a text, and what is wrong behind them. -/
structure Cutting where
  lexemes : List Lexeme
  fault : Option Fault
  deriving DecidableEq, Repr, Inhabited

end BrowserScript.Yaml

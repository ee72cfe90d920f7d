import BrowserScript.Text.Shown
import BrowserScript.Json.Written
import BrowserScript.Json.Outline

/-!
# Reading errors

Either the text is not JSON, or what it says does not fit the type that is wanted. A mismatch names
its cause; the wording is in `Mismatch.message`.
-/

namespace BrowserScript.Json

/-- What was met in place of the wanted value. -/
inductive Found where
  | null
  | boolean (b : Bool)
  | number (n : Number)
  | string (s : String)
  | sequence
  | map
  /-- A value with the name of a variant. -/
  | variant
  deriving DecidableEq, Repr

def Found.description : Found → String
  | null => "null"
  | boolean b => s!"boolean `{b}`"
  | number (.real x) => s!"floating point `{floatText.render x}`"
  | number n => s!"integer `{numberText n}`"
  | string s => s!"string {Text.shown s}"
  | sequence => "sequence"
  | map => "map"
  | variant => "enum"

inductive Mismatch where
  | invalidType (found : Found) (expected : String)
  | invalidValue (found : Found) (expected : String)
  /-- A sequence of the wrong number of elements. -/
  | invalidLength (length : Nat) (expected : String)
  | unknownVariant (name : String) (known : List String)
  | missingField (name : String)
  | duplicateField (name : String)
  /-- None of the alternatives of a type fits. -/
  | noAlternative (type : String)
  /-- A rule of the domain that the types do not express. -/
  | rule (text : String)
  deriving DecidableEq, Repr

def tick (name : String) : String := s!"`{name}`"

/-- The names a variant may have. -/
def expectedNames : List String → String
  | [] => "there are no variants"
  | [a] => s!"expected {tick a}"
  | [a, b] => s!"expected {tick a} or {tick b}"
  | names => "expected one of " ++ ", ".intercalate (names.map tick)

def Mismatch.message : Mismatch → String
  | invalidType found expected => s!"invalid type: {found.description}, expected {expected}"
  | invalidValue found expected => s!"invalid value: {found.description}, expected {expected}"
  | invalidLength length expected => s!"invalid length {length}, expected {expected}"
  | unknownVariant name known => s!"unknown variant {tick name}, {expectedNames known}"
  | missingField name => s!"missing field {tick name}"
  | duplicateField name => s!"duplicate field {tick name}"
  | noAlternative type => s!"data did not match any variant of untagged enum {type}"
  | rule text => text

inductive ReadError where
  | text (flaw : Flaw)
  /-- A mismatch has a place when the reader of a text came upon it. -/
  | data (mismatch : Mismatch) (place : Option Place)
  deriving DecidableEq, Repr

namespace ReadError

/-- The same error at a place, unless it has one. -/
def settledAt (place : Place) : ReadError → ReadError
  | data mismatch none => data mismatch (some place)
  | error => error

/-- The same error where the places are not those of a text. -/
def unplaced : ReadError → ReadError
  | data mismatch _ => data mismatch none
  | error => error

def message : ReadError → String
  | text flaw => s!"{flaw.fault.message} at {flaw.place.shown}"
  | data mismatch none => mismatch.message
  | data mismatch (some place) => s!"{mismatch.message} at {place.shown}"

end ReadError

end BrowserScript.Json

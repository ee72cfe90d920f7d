/-!
# Flaws of a text

What can be wrong with a text that should be JSON, and where. A `Place` is counted in lines and in
the bytes of a line; a `Cursor` is what is left of a text together with its place.
-/

namespace BrowserScript.Json

/-- How many lines have been begun, and how many bytes of the last one have been passed. -/
structure Place where
  line : Nat
  column : Nat
  deriving DecidableEq, Repr, Inhabited

namespace Place

def start : Place := ⟨1, 0⟩

/-- The place behind a character. -/
def past (place : Place) (c : Char) : Place :=
  if c = '\n' then ⟨place.line + 1, 0⟩ else ⟨place.line, place.column + c.utf8Size⟩

/-- The place behind some bytes of a text; the last character may be passed in part. -/
def pastBytes (place : Place) (count : Nat) : List Char → Place
  | [] => place
  | c :: rest =>
    if count = 0 then place
    else if count < c.utf8Size then ⟨place.line, place.column + count⟩
    else (place.past c).pastBytes (count - c.utf8Size) rest

def shown (place : Place) : String := s!"line {place.line} column {place.column}"

end Place

/-- What is wrong with a text itself. -/
inductive Fault where
  | endsInArray
  | endsInObject
  | endsInString
  | endsInValue
  | noColon
  | noItemEnd
  | noMemberEnd
  | noKeyword
  | noValue
  | badEscape
  | badNumber
  | numberTooLarge
  | controlCharacter
  | keyIsNoString
  | loneSurrogate
  | halfPair
  | trailingComma
  | trailingText
  | tooDeep
  deriving DecidableEq, Repr

namespace Fault

/-- The text ends too early; what there is of it may be sound. -/
def isTruncation : Fault → Bool
  | endsInArray | endsInObject | endsInString | endsInValue => true
  | _ => false

def message : Fault → String
  | endsInArray => "EOF while parsing a list"
  | endsInObject => "EOF while parsing an object"
  | endsInString => "EOF while parsing a string"
  | endsInValue => "EOF while parsing a value"
  | noColon => "expected `:`"
  | noItemEnd => "expected `,` or `]`"
  | noMemberEnd => "expected `,` or `\x7d`"
  | noKeyword => "expected ident"
  | noValue => "expected value"
  | badEscape => "invalid escape"
  | badNumber => "invalid number"
  | numberTooLarge => "number out of range"
  | controlCharacter => "control character (\\u0000-\\u001F) found while parsing a string"
  | keyIsNoString => "key must be a string"
  | loneSurrogate => "lone leading surrogate in hex escape"
  | halfPair => "unexpected end of hex escape"
  | trailingComma => "trailing comma"
  | trailingText => "trailing characters"
  | tooDeep => "recursion limit exceeded"

end Fault

/-- A fault and the place where it shows. -/
structure Flaw where
  fault : Fault
  place : Place
  deriving DecidableEq, Repr

structure Cursor where
  rest : List Char
  place : Place

namespace Cursor

def ofText (text : String) : Cursor := ⟨text.toList, .start⟩

/-- The place behind the next byte, if there is one. A problem with what comes next shows there. -/
def ahead (c : Cursor) : Place := c.place.pastBytes 1 c.rest

/-- Passes some characters. -/
def skip (count : Nat) (c : Cursor) : Cursor :=
  ⟨c.rest.drop count, (c.rest.take count).foldl Place.past c.place⟩

/-- The blanks between tokens. -/
def isSpace (c : Char) : Bool := c = ' ' || c = '\n' || c = '\t' || c = '\r'

def skipSpace (c : Cursor) : Cursor := c.skip (c.rest.takeWhile isSpace).length

/-- A fault of what comes next. -/
def flaw (c : Cursor) (fault : Fault) : Flaw := ⟨fault, c.ahead⟩

end Cursor

end BrowserScript.Json

import BrowserScript.Yaml.Token

/-!
# Cutting a text

How far a text has been cut into tokens: what is left of it, the blocks and flow collections that
are open, and the places where a key may have begun. A value mark turns what stands before it into
a key, so tokens are put in front of those that have been cut already.
-/

namespace BrowserScript.Yaml

/-- A place where a key may have begun. -/
structure KeyPlace where
  possible : Bool
  /-- The value mark must follow, since the key stands at the indentation of its block. -/
  required : Bool
  /-- How many tokens precede it. -/
  position : Nat
  mark : Mark
  deriving Inhabited

def KeyPlace.none : KeyPlace := ⟨false, false, 0, .start⟩

structure Cutter where
  rest : List Char
  /-- How many characters are left. -/
  left : Nat
  mark : Mark
  indent : Int
  /-- The indentations of the enclosing blocks. -/
  outerIndents : List Int
  /-- How many flow collections enclose this place. -/
  flowLevel : Nat
  keyAllowed : Bool
  /-- The place where a key may have begun, for this flow level. -/
  place : KeyPlace
  outerPlaces : List KeyPlace
  /-- The tokens that have been cut, the last one first. -/
  lexemes : List Lexeme
  /-- How many tokens these are. -/
  count : Nat

/-- What is being read, and where it begins. -/
abbrev Situation := Option (Context × Mark)

namespace Cutter

def isBlank (c : Char) : Bool := c = ' ' || c = '\t'

def isBreak (c : Char) : Bool :=
  c = '\n' || c = '\r' || c.toNat = 0x85 || c.toNat = 0x2028 || c.toNat = 0x2029

def isByteOrderMark (c : Char) : Bool := c.toNat = 0xFEFF

/-- A blank, a break, or the end of the text. -/
def isBlankOrEnd : List Char → Bool
  | [] => true
  | c :: _ => isBlank c || isBreak c

def isBreakOrEnd : List Char → Bool
  | [] => true
  | c :: _ => isBreak c

def isWordChar (c : Char) : Bool := c.isAlphanum || c = '_' || c = '-'

/-- The characters a text may hold. -/
def isAllowed (c : Char) : Bool :=
  let n := c.toNat
  n = 9 || n = 10 || n = 13 || (0x20 ≤ n && n ≤ 0x7E) || n = 0x85 || (0xA0 ≤ n && n ≤ 0xD7FF) ||
    (0xE000 ≤ n && n ≤ 0xFFFD) || 0x10000 ≤ n

def start (cs : List Char) : Cutter :=
  { rest := cs, left := cs.length, mark := .start, indent := -1, outerIndents := [], flowLevel := 0
    keyAllowed := true, place := .none, outerPlaces := [], lexemes := [], count := 0 }

/-- What comes next is wrong. -/
def fail {α : Type} (s : Cutter) (problem : Problem) (situation : Situation) : Except Fault α :=
  .error (.syntactic problem s.mark situation)

def column (s : Cutter) : Nat := s.mark.column

/-- Passes one character that is no break. -/
def skip (s : Cutter) : Cutter :=
  match s.rest with
  | c :: rest => { s with rest, left := s.left - 1, mark := s.mark.past c }
  | [] => s

def skipMany (s : Cutter) (n : Nat) : Cutter :=
  { s with
    rest := s.rest.drop n, left := s.left - n, mark := (s.rest.take n).foldl Mark.past s.mark }

/-- The break at the front, as it is kept in a scalar, and the cutter behind it. -/
def readBreak (s : Cutter) : List Char × Cutter :=
  match s.rest with
  | '\r' :: '\n' :: rest =>
    (['\n'], { s with rest, left := s.left - 2, mark := s.mark.pastBreak 2 })
  | c :: rest =>
    if isBreak c then
      let kept := if c.toNat = 0x2028 || c.toNat = 0x2029 then c else '\n'
      ([kept], { s with rest, left := s.left - 1, mark := s.mark.pastBreak c.utf8Size })
    else ([], s)
  | [] => ([], s)

/-- Passes characters while they satisfy `p`. -/
def skipWhile (s : Cutter) (p : Char → Bool) : List Char × Cutter :=
  let taken := s.rest.takeWhile p
  (taken, s.skipMany taken.length)

def skipComment (s : Cutter) : Cutter :=
  match s.rest with
  | '#' :: _ => (s.skipWhile fun c => !isBreak c).2
  | _ => s

/-- Adds a token that begins at a place. -/
def push (s : Cutter) (token : Token) (mark : Mark) : Cutter :=
  { s with lexemes := ⟨token, mark⟩ :: s.lexemes, count := s.count + 1 }

/-- Puts a token behind the first ones. -/
def insertAt (s : Cutter) (position : Nat) (token : Token) (mark : Mark) : Cutter :=
  let later := s.count - position
  { s with
    lexemes := s.lexemes.take later ++ ⟨token, mark⟩ :: s.lexemes.drop later
    count := s.count + 1 }

/-- Passes blanks, comments and breaks. Tabs do not count as blanks where they would be
indentation; a byte order mark may begin a line. -/
def skipToToken (fuel : Nat) (s : Cutter) : Cutter :=
  match fuel with
  | 0 => s
  | fuel + 1 =>
    let s := if s.column = 0 && s.rest.head?.any isByteOrderMark then s.skip else s
    let tabs := s.flowLevel ≠ 0 || !s.keyAllowed
    let s := (s.skipWhile fun c => c = ' ' || (tabs && c = '\t')).2.skipComment
    match s.rest with
    | c :: _ =>
      if isBreak c then
        let s := s.readBreak.2
        skipToToken fuel (if s.flowLevel = 0 then { s with keyAllowed := true } else s)
      else s
    | [] => s

/-- A key at the indentation of its block has no value. -/
def keyFault {α : Type} (s : Cutter) (place : KeyPlace) : Except Fault α :=
  s.fail .keyWithoutValue (some (.simpleKey, place.mark))

/-- A key has to end on its line, and within a limited length. -/
def stale (s : Cutter) (place : KeyPlace) : Bool :=
  place.possible && (place.mark.line < s.mark.line || place.mark.index + 1024 < s.mark.index)

/-- Gives up the places where a key can no longer be completed. -/
def dropStale (s : Cutter) : Except Fault Cutter :=
  match (s.place :: s.outerPlaces).find? fun place => s.stale place && place.required with
  | some place => s.keyFault place
  | none =>
    let fresh (place : KeyPlace) : KeyPlace :=
      if s.stale place then { place with possible := false } else place
    .ok { s with place := fresh s.place, outerPlaces := s.outerPlaces.map fresh }

/-- Gives up the current place of a key. -/
def dropPlace (s : Cutter) : Except Fault Cutter :=
  if s.place.possible && s.place.required then s.keyFault s.place
  else .ok { s with place := { s.place with possible := false } }

/-- Remembers that a key may begin here. -/
def savePlace (s : Cutter) : Except Fault Cutter :=
  if s.keyAllowed then do
    let s ← s.dropPlace
    .ok { s with
      place := ⟨true, s.flowLevel = 0 && s.indent = s.column, s.count, s.mark⟩ }
  else .ok s

/-- How many tokens are certain. Those behind them may still get a key in front of them. -/
def settled (s : Cutter) : Nat :=
  (s.place :: s.outerPlaces).foldl
    (fun count place => if place.possible then min count place.position else count) s.count

/-- The cutting that ends with a fault. -/
def stopped (s : Cutter) (fault : Fault) : Cutting := ⟨s.lexemes.reverse.take s.settled, some fault⟩

/-- Enters a block if the column is deeper than the current one. -/
def deepen (s : Cutter) (column : Nat) : Option Cutter :=
  if s.flowLevel = 0 && s.indent < column then
    some { s with indent := column, outerIndents := s.indent :: s.outerIndents }
  else none

/-- Opens a block collection that begins here, if it is deeper than the current one. -/
def openBlock (s : Cutter) (token : Token) : Cutter :=
  match s.deepen s.column with
  | some s => s.push token s.mark
  | none => s

/-- Closes the blocks that are deeper than the column. -/
def closeBlocks (s : Cutter) (column : Int) : Cutter :=
  if s.flowLevel ≠ 0 then s else go s.outerIndents s
where
  go : List Int → Cutter → Cutter
    | [], s => s
    | outer :: rest, s =>
      if column < s.indent then
        go rest ({ s with indent := outer, outerIndents := rest }.push .blockEnd s.mark)
      else s

def startsWith (lead : List Char) (cs : List Char) : Bool := cs.take lead.length == lead

/-- Three dashes or dots alone at the beginning of a line. -/
def atDocumentMark (s : Cutter) : Bool :=
  s.column = 0 && (startsWith ['-', '-', '-'] s.rest || startsWith ['.', '.', '.'] s.rest) &&
    isBlankOrEnd (s.rest.drop 3)

/-- Passes a mark of one character, whose token it becomes. -/
def takeMark (s : Cutter) (token : Token) : Cutter := s.skip.push token s.mark

/-- The rest of a line that may only hold a comment. -/
def lineEnd (s : Cutter) (situation : Situation) : Except Fault Cutter :=
  let s := (s.skipWhile isBlank).2.skipComment
  if isBreakOrEnd s.rest then .ok s.readBreak.2 else s.fail .noCommentOrBreak situation

end Cutter

end BrowserScript.Yaml

import BrowserScript.Text.Hex
import BrowserScript.Yaml.Cutter

/-!
# Scalars

The five ways to write a text: plain, in single or double quotes, and as a literal or folded block.
Outside of literal blocks a line break stands for a space, and every further one for itself.
-/

namespace BrowserScript.Yaml.Cutter

open Text

/-- Line breaks inside a scalar that is not literal: a single one becomes a space, the first of
several disappears. -/
def fold (first later : List Char) : List Char :=
  match first with
  | ['\n'] => if later.isEmpty then [' '] else later
  | _ => first ++ later

/-- Adds a piece to a text that is kept back to front. -/
def joined (text piece : List Char) : List Char := piece.reverseAux text

/-- What stands between two words. -/
structure Gap where
  /-- A line break has been passed. -/
  broken : Bool
  blanks : List Char
  first : List Char
  later : List Char

namespace Gap

def none : Gap := ⟨false, [], [], []⟩

/-- A break that has been escaped is passed but not kept. -/
def escapedBreak : Gap := { none with broken := true }

def text (gap : Gap) : List Char :=
  if gap.broken then fold gap.first gap.later else gap.blanks

end Gap

/-- The gap at the front. `tabLimit` is the column before which a tab may not stand on a new line,
with what is being read. -/
def gap (tabLimit : Option (Int × Situation)) (fuel : Nat) (s : Cutter) (before : Gap) :
    Except Fault (Gap × Cutter) :=
  match fuel with
  | 0 => .ok (before, s)
  | fuel + 1 =>
    match s.rest with
    | c :: _ =>
      if isBlank c then
        if before.broken then
          match tabLimit with
          | some (limit, situation) =>
            if c = '\t' && (s.column : Int) < limit then s.fail .tabBeforeText situation
            else gap tabLimit fuel s.skip before
          | none => gap tabLimit fuel s.skip before
        else gap tabLimit fuel s.skip { before with blanks := before.blanks ++ [c] }
      else if isBreak c then
        let (kept, s) := s.readBreak
        if before.broken then gap tabLimit fuel s { before with later := before.later ++ kept }
        else gap tabLimit fuel s { before with broken := true, blanks := [], first := kept }
      else .ok (before, s)
    | [] => .ok (before, s)

/-- What may follow a colon directly inside a flow collection only as an error. -/
def isFlowMark (c : Char) : Bool := [',', '?', '[', ']', '{', '}'].contains c

/-- One word of a plain scalar. -/
def plainWord (situation : Situation) (fuel : Nat) (s : Cutter) (acc : List Char) :
    Except Fault (List Char × Cutter) :=
  match fuel with
  | 0 => .ok (acc.reverse, s)
  | fuel + 1 =>
    match s.rest with
    | [] => .ok (acc.reverse, s)
    | c :: rest =>
      let flow := s.flowLevel ≠ 0
      if isBlank c || isBreak c then .ok (acc.reverse, s)
      else if flow && c = ':' && rest.head?.any isFlowMark then s.fail .colonInFlow situation
      else if c = ':' && isBlankOrEnd rest then .ok (acc.reverse, s)
      else if flow && [',', '[', ']', '{', '}'].contains c then .ok (acc.reverse, s)
      else plainWord situation fuel s.skip (c :: acc)

/-- The words of a plain scalar with their gaps, back to front; also whether it ended behind a line
break. -/
def plainText (situation : Situation) (indent : Int) (fuel : Nat) (s : Cutter)
    (text between : List Char) (broken : Bool) : Except Fault (List Char × Bool × Cutter) :=
  match fuel with
  | 0 => .ok (text, broken, s)
  | fuel + 1 =>
    if s.atDocumentMark || s.rest.head? = some '#' then .ok (text, broken, s)
    else do
      let (word, s) ← plainWord situation (s.left + 1) s []
      let (text, broken) :=
        if word.isEmpty then (text, broken) else (joined (joined text between) word, false)
      let ended := match s.rest with
        | c :: _ => !(isBlank c || isBreak c)
        | [] => true
      if ended then .ok (text, broken, s)
      else
        let (gap, s) ← gap (some (indent, situation)) (s.left + 1) s .none
        if s.flowLevel = 0 && (s.column : Int) < indent then .ok (text, gap.broken, s)
        else plainText situation indent fuel s text gap.text gap.broken

def plain (s : Cutter) : Except Fault Cutter := do
  let s ← s.savePlace
  let start := s.mark
  let s := { s with keyAllowed := false }
  let (text, broken, s) ←
    plainText (some (.plainScalar, start)) (s.indent + 1) (s.left + 1) s [] [] false
  let s := if broken then { s with keyAllowed := true } else s
  .ok (s.push (.scalar (String.ofList text.reverse) .plain) start)

/-- The escapes of a double-quoted scalar that stand for one character. -/
def namedEscape? : Char → Option Nat
  | '0' => some 0
  | 'a' => some 7
  | 'b' => some 8
  | 't' | '\t' => some 9
  | 'n' => some 10
  | 'v' => some 11
  | 'f' => some 12
  | 'r' => some 13
  | 'e' => some 27
  | ' ' => some 32
  | '"' => some 34
  | '/' => some 47
  | '\\' => some 92
  | 'N' => some 0x85
  | '_' => some 0xA0
  | 'L' => some 0x2028
  | 'P' => some 0x2029
  | _ => none

def codeLength? : Char → Option Nat
  | 'x' => some 2
  | 'u' => some 4
  | 'U' => some 8
  | _ => none

/-- The character of an escape behind its backslash. -/
def escapedChar (situation : Situation) (s : Cutter) : Except Fault (Char × Cutter) :=
  match s.rest with
  | [] | [_] => s.fail .unknownEscape situation
  | _ :: e :: _ =>
    match namedEscape? e, codeLength? e with
    | some code, _ => .ok (Char.ofNat code, s.skipMany 2)
    | none, some length =>
      let s := s.skipMany 2
      let digits := s.rest.take length
      match hexNumber? digits with
      | none => s.fail .noHexNumber situation
      | some code =>
        if digits.length < length then s.fail .noHexNumber situation
        else if (0xD800 ≤ code && code ≤ 0xDFFF) || 0x10FFFF < code then s.fail .badCode situation
        else .ok (Char.ofNat code, s.skipMany length)
    | none, none => s.fail .unknownEscape situation

/-- The characters of a quoted scalar up to a blank, a break or the closing quote, and how the gap
behind them begins. -/
def quotedWord (start : Mark) (quote : Char) (fuel : Nat) (s : Cutter) (acc : List Char) :
    Except Fault (List Char × Gap × Cutter) :=
  match fuel with
  | 0 => .ok (acc.reverse, .none, s)
  | fuel + 1 =>
    match s.rest with
    | [] => .ok (acc.reverse, .none, s)
    | c :: rest =>
      if isBlank c || isBreak c then .ok (acc.reverse, .none, s)
      else if quote = '\'' && c = '\'' && rest.head? = some '\'' then
        quotedWord start quote fuel (s.skipMany 2) ('\'' :: acc)
      else if c = quote then .ok (acc.reverse, .none, s)
      else if quote = '"' && c = '\\' then
        if rest.head?.any isBreak then .ok (acc.reverse, .escapedBreak, s.skip.readBreak.2)
        else do
          let (c, s) ← escapedChar (some (.quotedEscape, start)) s
          quotedWord start quote fuel s (c :: acc)
      else quotedWord start quote fuel s.skip (c :: acc)

/-- The words of a quoted scalar with their gaps, back to front, up to the closing quote. -/
def quotedText (start : Mark) (quote : Char) (fuel : Nat) (s : Cutter) (text : List Char) :
    Except Fault (List Char × Cutter) :=
  let situation : Situation := some (.quotedScalar, start)
  match fuel with
  | 0 => s.fail .endInScalar situation
  | fuel + 1 =>
    if s.atDocumentMark then s.fail .documentInScalar situation
    else if s.rest.isEmpty then s.fail .endInScalar situation
    else do
      let (word, between, s) ← quotedWord start quote (s.left + 1) s []
      let text := joined text word
      if s.rest.head? = some quote then .ok (text, s.skip)
      else
        let (gap, s) ← gap none (s.left + 1) s between
        quotedText start quote fuel s (joined text gap.text)

def quoted (s : Cutter) (quote : Char) (style : Style) : Except Fault Cutter := do
  let s ← s.savePlace
  let start := s.mark
  let s := { s with keyAllowed := false }.skip
  let (text, s) ← quotedText start quote (s.left + 1) s []
  .ok (s.push (.scalar (String.ofList text.reverse) style) start)

/-- The empty lines and the indentation before a line of a block scalar. An indentation of zero is
not known yet and is taken from the deepest of these lines. -/
def blockBreaks (situation : Situation) (fuel : Nat) (s : Cutter) (indent deepest : Nat)
    (breaks : List Char) : Except Fault (Nat × List Char × Cutter) :=
  match fuel with
  | 0 => .ok (indent, breaks, s)
  | fuel + 1 =>
    let spaces := s.rest.takeWhile (· = ' ')
    let s :=
      s.skipMany (if indent = 0 then spaces.length else min spaces.length (indent - s.column))
    let deepest := max deepest s.column
    if (indent = 0 || s.column < indent) && s.rest.head? = some '\t' then
      s.fail .tabAsIndentation situation
    else
      match s.rest with
      | c :: _ =>
        if isBreak c then
          let (kept, s) := s.readBreak
          blockBreaks situation fuel s indent deepest (breaks ++ kept)
        else .ok (known deepest, breaks, s)
      | [] => .ok (known deepest, breaks, s)
where
  known (deepest : Nat) : Nat :=
    if indent = 0 then max (max deepest (s.indent + 1).toNat) 1 else indent

/-- The lines of a block scalar, back to front. What is left at its end are the last break and the
empty lines behind it. -/
def blockLines (situation : Situation) (folding : Bool) (fuel : Nat) (s : Cutter) (indent : Nat)
    (text first later : List Char) (leadingBlank : Bool) :
    Except Fault (List Char × List Char × List Char × Cutter) :=
  match fuel with
  | 0 => .ok (text, first, later, s)
  | fuel + 1 =>
    if s.column = indent && !s.rest.isEmpty then do
      let trailingBlank := s.rest.head?.any isBlank
      let between :=
        if folding && first = ['\n'] && !leadingBlank && !trailingBlank then
          if later.isEmpty then [' '] else []
        else first
      let (line, s) := s.skipWhile fun c => !isBreak c
      let (first, s) := s.readBreak
      let text := joined (joined text (between ++ later)) line
      let (_, later, s) ← blockBreaks situation (s.left + 1) s indent 0 []
      blockLines situation folding fuel s indent text first later trailingBlank
    else .ok (text, first, later, s)

/-- What becomes of the line breaks at the end of a block scalar. -/
inductive Chomping where
  | one
  | all
  | none
  deriving DecidableEq

def chomping (s : Cutter) : Option (Chomping × Cutter) :=
  match s.rest with
  | '+' :: _ => some (.all, s.skip)
  | '-' :: _ => some (.none, s.skip)
  | _ => Option.none

/-- By how much a block is indented; zero stands for an indentation that is not given. -/
def increment (s : Cutter) (situation : Situation) : Except Fault (Nat × Cutter) :=
  match s.rest with
  | c :: _ =>
    if c = '0' then s.fail .zeroIndentation situation
    else if c.isDigit then .ok (c.toNat - 48, s.skip)
    else .ok (0, s)
  | [] => .ok (0, s)

/-- The signs behind a block scalar mark, in either order. -/
def blockHeader (s : Cutter) (situation : Situation) : Except Fault (Chomping × Nat × Cutter) :=
  match s.chomping with
  | some (chomping, s) => do
    let (increment, s) ← s.increment situation
    .ok (chomping, increment, s)
  | none => do
    let (increment, s) ← s.increment situation
    let (chomping, s) := (if increment = 0 then none else s.chomping).getD (.one, s)
    .ok (chomping, increment, s)

def block (s : Cutter) (folding : Bool) : Except Fault Cutter := do
  let s ← s.dropPlace
  let start := s.mark
  let situation : Situation := some (.blockScalar, start)
  let (chomping, increment, s) ← { s with keyAllowed := true }.skip.blockHeader situation
  let s ← s.lineEnd situation
  let indent := if increment = 0 then 0 else s.indent.toNat + increment
  let (indent, later, s) ← blockBreaks situation (s.left + 1) s indent 0 []
  let (text, first, later, s) ←
    blockLines situation folding (s.left + 1) s indent [] [] later false
  let text := match chomping with
    | .none => text
    | .one => joined text first
    | .all => joined text (first ++ later)
  .ok (s.push (.scalar (String.ofList text.reverse) (if folding then .folded else .literal)) start)

end BrowserScript.Yaml.Cutter

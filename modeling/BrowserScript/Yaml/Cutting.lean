import BrowserScript.Yaml.Name
import BrowserScript.Yaml.Scalar

/-!
# The tokens of a text

Each token is cut where the blanks before it end. The tokens that were certain before a fault can
still be had, so that a reader who stops early never learns of it.
-/

namespace BrowserScript.Yaml

namespace Cutter

def flowStart (s : Cutter) (token : Token) : Except Fault Cutter := do
  let s ← s.savePlace
  let s := s.takeMark token
  .ok { s with
    flowLevel := s.flowLevel + 1, place := .none, outerPlaces := s.place :: s.outerPlaces
    keyAllowed := true }

def flowEnd (s : Cutter) (token : Token) : Except Fault Cutter := do
  let s ← s.dropPlace
  let s := match s.outerPlaces with
    | place :: rest => { s with flowLevel := s.flowLevel - 1, place, outerPlaces := rest }
    | [] => s
  .ok ({ s with keyAllowed := false }.takeMark token)

def flowEntry (s : Cutter) : Except Fault Cutter := do
  let s ← s.dropPlace
  .ok ({ s with keyAllowed := true }.takeMark .flowEntry)

def blockEntry (s : Cutter) : Except Fault Cutter := do
  if s.flowLevel = 0 && !s.keyAllowed then s.fail .entryNotAllowed none
  let s ← (s.openBlock .blockSequenceStart).dropPlace
  .ok ({ s with keyAllowed := true }.takeMark .blockEntry)

def explicitKey (s : Cutter) : Except Fault Cutter := do
  if s.flowLevel = 0 && !s.keyAllowed then s.fail .keyNotAllowed none
  let s ← (s.openBlock .blockMappingStart).dropPlace
  .ok ({ s with keyAllowed := s.flowLevel = 0 }.takeMark .key)

/-- A value mark. What stands before it on the line becomes a key, and a mapping begins with that
key if it is deeper than the current block. -/
def valueMark (s : Cutter) : Except Fault Cutter :=
  let place := s.place
  if place.possible then
    let s := s.insertAt place.position .key place.mark
    let s := match s.deepen place.mark.column with
      | some s => s.insertAt place.position .blockMappingStart place.mark
      | none => s
    .ok ({ s with
      place := { place with possible := false }, keyAllowed := false }.takeMark .value)
  else if s.flowLevel = 0 && !s.keyAllowed then s.fail .valueNotAllowed none
  else
    .ok ({ s.openBlock .blockMappingStart with keyAllowed := s.flowLevel = 0 }.takeMark .value)

/-- The beginning or the end of a document. -/
def documentMark (s : Cutter) (token : Token) : Except Fault Cutter := do
  let s ← (s.closeBlocks (-1)).dropPlace
  .ok (({ s with keyAllowed := false }.skipMany 3).push token s.mark)

/-- Characters that cannot begin a plain scalar. -/
def isIndicator (c : Char) : Bool :=
  ['\t', '-', '?', ':', ',', '[', ']', '{', '}', '#', '&', '*', '!', '|', '>', '\'', '"', '%', '@',
    '`'].contains c

/-- Cuts one token at a place that is neither blank nor the end. -/
def cutToken (s : Cutter) (c : Char) (rest : List Char) : Except Fault Cutter :=
  let flow := s.flowLevel ≠ 0
  if s.column = 0 && c = '%' then s.directive
  else if s.atDocumentMark then s.documentMark (if c = '-' then .documentStart else .documentEnd)
  else
    match c with
    | '[' => s.flowStart .flowSequenceStart
    | '{' => s.flowStart .flowMappingStart
    | ']' => s.flowEnd .flowSequenceEnd
    | '}' => s.flowEnd .flowMappingEnd
    | ',' => s.flowEntry
    | '*' => s.name .alias .alias
    | '&' => s.name .anchor .anchor
    | '!' => s.tag
    | '\'' => s.quoted '\'' .singleQuoted
    | '"' => s.quoted '"' .doubleQuoted
    | _ =>
      if c = '-' && isBlankOrEnd rest then s.blockEntry
      else if c = '?' && (flow || isBlankOrEnd rest) then s.explicitKey
      else if c = ':' && (flow || isBlankOrEnd rest) then s.valueMark
      else if c = '|' && !flow then s.block false
      else if c = '>' && !flow then s.block true
      else if !isIndicator c || (c = '-' && !rest.head?.any isBlank) ||
          (!flow && (c = '?' || c = ':') && !isBlankOrEnd rest) then s.plain
      else s.fail .noToken (some (.nextToken, s.mark))

/-- Goes to the next token and closes the blocks that end before it. -/
def toToken (s : Cutter) : Except Fault Cutter := do
  let s ← (s.skipToToken (s.left + 1)).dropStale
  .ok (s.closeBlocks s.column)

/-- Closes what is open at the end of the text, which counts as the end of a line. -/
def finish (s : Cutter) : Except Fault Cutter := do
  let s := if s.column = 0 then s else { s with mark := s.mark.pastBreak 0 }
  let s ← (s.closeBlocks (-1)).dropPlace
  (s.push .streamEnd s.mark).dropStale

def cut (fuel : Nat) (s : Cutter) : Cutting :=
  match fuel with
  | 0 => ⟨[], none⟩
  | fuel + 1 =>
    match s.toToken with
    | .error fault => s.stopped fault
    | .ok ahead =>
      match ahead.rest with
      | [] =>
        match ahead.finish with
        | .error fault => s.stopped fault
        | .ok done => ⟨done.lexemes.reverse, none⟩
      | c :: rest =>
        match ahead.cutToken c rest >>= dropStale with
        | .error fault => s.stopped fault
        | .ok behind => cut fuel behind

end Cutter

/-- The tokens of a text. Its characters are looked at first. -/
def Cutting.ofText (text : String) : Cutting :=
  let cs := text.toList
  let sound := cs.takeWhile Cutter.isAllowed
  if sound.length < cs.length then ⟨[], some (.character (String.ofList sound).utf8ByteSize)⟩
  else Cutter.cut (cs.length + 2) (.start cs)

end BrowserScript.Yaml

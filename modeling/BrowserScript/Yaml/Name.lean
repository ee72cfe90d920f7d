import BrowserScript.Text.Hex
import BrowserScript.Yaml.Cutter

/-!
# Anchors, tags and directives

The tokens that name a node or its type, and the directives in front of a document, which say what
the handles of tags stand for.
-/

namespace BrowserScript.Yaml.Cutter

open Text

/-- The name behind an anchor or alias mark. -/
def name (s : Cutter) (context : Context) (token : String → Token) : Except Fault Cutter := do
  let s ← s.savePlace
  let start := s.mark
  let (name, s) := { s with keyAllowed := false }.skip.skipWhile isWordChar
  let ended := isBlankOrEnd s.rest ||
    s.rest.head?.any ['?', ':', ',', ']', '}', '%', '@', '`'].contains
  if name.isEmpty || !ended then s.fail .noName (some (context, start))
  else .ok (s.push (token (String.ofList name)) start)

/-- How many bytes a character has whose first byte is given. -/
def byteCount? (first : Nat) : Option Nat :=
  if first < 0x80 then some 1
  else if first < 0xC0 then none
  else if first < 0xE0 then some 2
  else if first < 0xF0 then some 3
  else if first < 0xF8 then some 4
  else none

/-- The byte that a percent escape at the front stands for. -/
def octet (s : Cutter) (situation : Situation) : Except Fault Nat :=
  match s.rest with
  | '%' :: a :: b :: _ =>
    match hexNumber? [a, b] with
    | some n => .ok n
    | none => s.fail .noOctet situation
  | _ => s.fail .noOctet situation

/-- The bytes of a character behind its first one. -/
def laterOctets (situation : Situation) : Nat → Cutter → Except Fault (Tag × Cutter)
  | 0, s => .ok ([], s)
  | count + 1, s => do
    let octet ← s.octet situation
    if octet / 64 ≠ 2 then s.fail .badLaterOctet situation
    let (octets, s) ← laterOctets situation count (s.skipMany 3)
    .ok (octet.toUInt8 :: octets, s)

/-- The bytes of a character written by percent escapes. Which character that is does not matter. -/
def escapedOctets (s : Cutter) (situation : Situation) : Except Fault (Tag × Cutter) := do
  let first ← s.octet situation
  match byteCount? first with
  | none => s.fail .badFirstOctet situation
  | some count =>
    let (octets, s) ← laterOctets situation (count - 1) (s.skipMany 3)
    .ok (first.toUInt8 :: octets, s)

def isTagChar (wide : Bool) (c : Char) : Bool :=
  isWordChar c ||
    [';', '/', '?', ':', '@', '&', '=', '+', '$', '.', '!', '~', '*', '\'', '(', ')'].contains c ||
    (wide && [',', '[', ']'].contains c)

/-- The text of a tag. A wide one may hold the marks of flow collections. -/
def tagText (situation : Situation) (wide : Bool) (fuel : Nat) (s : Cutter) :
    Except Fault (Tag × Cutter) :=
  match fuel with
  | 0 => .ok ([], s)
  | fuel + 1 =>
    match s.rest with
    | '%' :: _ => do
      let (octets, s) ← s.escapedOctets situation
      let (rest, s) ← tagText situation wide fuel s
      .ok (octets ++ rest, s)
    | c :: _ =>
      if isTagChar wide c then do
        let (rest, s) ← tagText situation wide fuel s.skip
        .ok (c.toNat.toUInt8 :: rest, s)
      else .ok ([], s)
    | [] => .ok ([], s)

/-- A text that may not be empty. -/
def someTagText (s : Cutter) (situation : Situation) (wide : Bool) :
    Except Fault (Tag × Cutter) := do
  let (text, s) ← tagText situation wide (s.left + 1) s
  if text.isEmpty then s.fail .noTagText situation else .ok (text, s)

/-- An exclamation mark, a word, and an exclamation mark if there is one. -/
def tagHandle (s : Cutter) : String × Cutter :=
  let (word, s) := s.skip.skipWhile isWordChar
  match s.rest with
  | '!' :: _ => (String.ofList ('!' :: word ++ ['!']), s.skip)
  | _ => (String.ofList ('!' :: word), s)

/-- A handle that can stand for something else than an exclamation mark. -/
def isFullHandle (handle : String) : Bool :=
  1 < handle.length && handle.toList.getLast? = some '!'

/-- A tag in full, or its handle and the rest. What looks like an incomplete handle is the
beginning of the rest. -/
def tagParts (s : Cutter) : Except Fault (String × Tag × Cutter) := do
  let within : Situation := some (.tagText, s.mark)
  match s.rest with
  | '!' :: '<' :: _ => do
    let start := s.mark
    let (text, s) ← (s.skipMany 2).someTagText within true
    match s.rest with
    | '>' :: _ => .ok ("", text.upToZero, s.skip)
    | _ => s.fail .noTagEnd (some (.tag, start))
  | _ => do
    let (handle, s) := s.tagHandle
    if isFullHandle handle then do
      let (text, s) ← s.someTagText within false
      .ok (handle, text.upToZero, s)
    else do
      let (text, s) ← tagText within false (s.left + 1) s
      let suffix : Tag := (Tag.ofText handle).tail ++ text
      if suffix.upToZero.isEmpty then .ok ("", Tag.ofText "!", s)
      else .ok ("!", suffix.upToZero, s)

def tag (s : Cutter) : Except Fault Cutter := do
  let s ← s.savePlace
  let start := s.mark
  let (handle, suffix, s) ← { s with keyAllowed := false }.tagParts
  if isBlankOrEnd s.rest || (s.flowLevel ≠ 0 && s.rest.head? = some ',') then
    .ok (s.push (.tag handle suffix) start)
  else s.fail .noBlankOrBreak (some (.tag, start))

/-- A part of a version has at most so many digits. -/
def versionDigits : Nat := 9

def versionNumber (s : Cutter) (situation : Situation) : Except Fault (Nat × Cutter) :=
  let (digits, behind) := s.skipWhile Char.isDigit
  if digits.isEmpty then s.fail .noVersionNumber situation
  else if versionDigits < digits.length then
    (s.skipMany versionDigits).fail .versionTooLong situation
  else .ok (digits.foldl (fun n c => n * 10 + (c.toNat - 48)) 0, behind)

def versionDirective (s : Cutter) (start : Mark) : Except Fault (Token × Cutter) := do
  let situation : Situation := some (.versionDirective, start)
  let (major, s) ← s.versionNumber situation
  match s.rest with
  | '.' :: _ =>
    let (minor, s) ← s.skip.versionNumber situation
    .ok (.versionDirective major minor, s)
  | _ => s.fail .noVersionPoint situation

def tagDirective (s : Cutter) (start : Mark) : Except Fault (Token × Cutter) := do
  let situation : Situation := some (.tagDirective, start)
  if s.rest.head? ≠ some '!' then s.fail .noTagSign (some (.tagDirectiveHandle, start))
  let (handle, s) := s.tagHandle
  if !isFullHandle handle && handle ≠ "!" then
    s.fail .noTagSign (some (.tagDirectiveHandleEnd, start))
  if !s.rest.head?.any isBlank then s.fail .noBlank situation
  let (lead, s) ← (s.skipWhile isBlank).2.someTagText (some (.tagDirectiveText, start)) true
  if isBlankOrEnd s.rest then .ok (.tagDirective handle lead.upToZero, s)
  else s.fail .noBlankOrBreak situation

def directive (s : Cutter) : Except Fault Cutter := do
  let s ← (s.closeBlocks (-1)).dropPlace
  let start := s.mark
  let situation : Situation := some (.directive, start)
  let (name, s) := { s with keyAllowed := false }.skip.skipWhile isWordChar
  if name.isEmpty then s.fail .noDirectiveName situation
  if !isBlankOrEnd s.rest then s.fail .badDirectiveName situation
  let (token, s) ←
    match String.ofList name with
    | "YAML" => (s.skipWhile isBlank).2.versionDirective start
    | "TAG" => (s.skipWhile isBlank).2.tagDirective start
    | _ => s.fail .unknownDirective situation
  let s ← s.lineEnd situation
  .ok (s.push token start)

end BrowserScript.Yaml.Cutter

import BrowserScript.Text.Hex
import BrowserScript.Json.Flaw
import BrowserScript.Json.Numeral

/-!
# Outlines of JSON texts

A text is read once, from left to right, and a reader of some type stops at the first problem it
meets. Which problem that is depends on the type: a number where a string is wanted is reported
before a bracket that is missing behind it. An `Outline` is the tree of a text with its problems
left in place, so that every reader finds the first one by walking the tree in order. It also holds
the places that readers speak of.
-/

namespace BrowserScript.Json

/-- A member's key. One that cannot be read may still be passed over. -/
inductive Key where
  | name (s : String)
  | unreadable (flaw : Flaw)
  deriving DecidableEq, Repr

/-- An item of an array. A reader that gives the array up behind the item looks for the end of the
array first: then it is at `settled`, and `closing` is what it finds in place of the end. -/
structure Item (α : Type) where
  value : α
  settled : Place
  closing : Option Flaw

/-- A member of an object; `settled` and `closing` are as for an item. A reader that gives the
object up behind the key is at `keyed`. -/
structure Member (α : Type) where
  key : Key
  keyed : Place
  value : α
  settled : Place
  closing : Option Flaw

inductive Outline where
  | null (after : Place)
  | bool (b : Bool) (after : Place)
  | num (n : Number) (after : Place)
  | str (s : String) (after : Place)
  /-- The place behind the closing bracket, or what stands in its place. -/
  | arr (before : Place) (items : List (Item Outline)) (stop : Except Flaw Place)
  | obj (before : Place) (members : List (Member Outline)) (stop : Except Flaw Place)
  /-- Reading fails here. `lead` is the first character of the value, `passing` what a reader meets
  that only passes over the value. -/
  | unreadable (lead : Option Char) (flaw : Flaw) (passing : Option Flaw)
  deriving Inhabited

namespace Outline

/-- A value that can neither be read nor passed over. -/
def broken (lead : Option Char) (flaw : Flaw) : Outline := unreadable lead flaw (some flaw)

/-- Containers nested deeper than this are not read. -/
def depthLimit : Nat := 127

/-- Reads the rest of a keyword. -/
def keyword (lead : Char) (value : Place → Outline) (letters : List Char) (c : Cursor) :
    Outline × Option Cursor :=
  match letters with
  | [] => (value c.place, some c)
  | letter :: letters =>
    match c.rest with
    | [] => (broken (some lead) (c.flaw .endsInValue), none)
    | next :: _ =>
      if next = letter then keyword lead value letters (c.skip 1)
      else (broken (some lead) (c.flaw .noKeyword), none)

/-- Four hexadecimal digits. Whether the text is cut short is decided by its bytes. -/
def hexQuad (cs : List Char) : Except Fault (Nat × List Char) :=
  if (cs.take 4).foldl (fun size c => size + c.utf8Size) 0 < 4 then .error .endsInString
  else
    match cs with
    | a :: b :: c :: d :: rest =>
      match Text.hexNumber? [a, b, c, d] with
      | some n => .ok (n, rest)
      | none => .error .badEscape
    | _ => .error .badEscape

/-- A piece of a string: a character, or a code unit written by its number. Behind the number is a
place, and the flaw of a unit that wants a partner there. -/
inductive Piece where
  | char (c : Char)
  | unit (n : Nat) (after : Place) (alone : Option Flaw)

def simpleEscape? : Char → Option Char
  | '"' => some '"'
  | '\\' => some '\\'
  | '/' => some '/'
  | 'b' => some (Char.ofNat 8)
  | 'f' => some (Char.ofNat 12)
  | 'n' => some '\n'
  | 'r' => some '\r'
  | 't' => some '\t'
  | _ => none

theorem hex_quad_shorter {cs rest : List Char} {n : Nat} (h : hexQuad cs = .ok (n, rest)) :
    rest.length < cs.length := by
  unfold hexQuad at h
  split at h
  · cases h
  · split at h
    · split at h
      · cases h
        simp only [List.length_cons]
        omega
      · cases h
    · cases h

/-- What a code unit meets that wants a partner: nothing if another unit follows. -/
def unpaired (cs : List Char) (place : Place) : Option Flaw :=
  match cs with
  | [] | '\\' :: [] => some ⟨.endsInString, place.pastBytes 2 cs⟩
  | '\\' :: 'u' :: _ => none
  | '\\' :: _ => some ⟨.halfPair, place.pastBytes 2 cs⟩
  | _ => some ⟨.halfPair, place.pastBytes 1 cs⟩

/-- Where the pieces of a string end: behind the closing quote, or at a flaw, which is told apart
for readers that read the string and readers that pass over it. -/
abbrev PiecesEnd := Except (Flaw × Flaw) Cursor

/-- The pieces of a string up to its end. -/
def pieces (cs : List Char) (place : Place) (acc : List Piece) : List Piece × PiecesEnd :=
  let fail (fault : Fault) (bytes : Nat) : List Piece × PiecesEnd :=
    let flaw : Flaw := ⟨fault, place.pastBytes bytes cs⟩
    (acc.reverse, .error (flaw, flaw))
  match cs with
  | [] => fail .endsInString 0
  | '"' :: rest => (acc.reverse, .ok ⟨rest, place.past '"'⟩)
  | '\\' :: [] => fail .endsInString 1
  | '\\' :: 'u' :: rest =>
    match h : hexQuad rest with
    | .ok (n, rest') =>
      have := hex_quad_shorter h
      let after := place.pastBytes 6 cs
      pieces rest' after (.unit n after (unpaired rest' after) :: acc)
    | .error fault => fail fault 6
  | '\\' :: c :: rest =>
    match simpleEscape? c with
    | some e => pieces rest (place.pastBytes 2 cs) (.char e :: acc)
    | none => fail .badEscape 2
  | c :: rest =>
    if c.toNat < 32 then
      (acc.reverse, .error (⟨.controlCharacter, place.past c⟩, ⟨.controlCharacter, place⟩))
    else pieces rest (place.past c) (.char c :: acc)
termination_by cs.length

/-- Joins surrogate pairs, up to the end of the string. -/
def assemble (stop : PiecesEnd) : List Piece → Except Flaw (List Char × Cursor)
  | [] =>
    match stop with
    | .ok c => .ok ([], c)
    | .error (flaw, _) => .error flaw
  | .char c :: rest => (assemble stop rest).map fun (cs, cursor) => (c :: cs, cursor)
  | .unit n after alone :: rest =>
    if 0xDC00 ≤ n ∧ n ≤ 0xDFFF then .error ⟨.loneSurrogate, after⟩
    else if 0xD800 ≤ n ∧ n ≤ 0xDBFF then
      match alone, rest with
      | some flaw, _ => .error flaw
      | none, .unit m after _ :: rest =>
        if 0xDC00 ≤ m ∧ m ≤ 0xDFFF then
          (assemble stop rest).map fun (cs, cursor) =>
            (Char.ofNat (0x10000 + (n - 0xD800) * 0x400 + (m - 0xDC00)) :: cs, cursor)
        else .error ⟨.loneSurrogate, after⟩
      | none, rest => assemble stop rest
    else (assemble stop rest).map fun (cs, cursor) => (Char.ofNat n :: cs, cursor)

/-- A string from behind its opening quote on: what reading it gives, and what is left if it can be
passed over. -/
def string (c : Cursor) : Except Flaw (String × Cursor) × Except Flaw Cursor :=
  let (ps, stop) := pieces c.rest c.place []
  ((assemble stop ps).map fun (cs, cursor) => (String.ofList cs, cursor),
    stop.mapError Prod.snd)

/-- The flaw of an array, as a reader meets it that only passes over the array. -/
def passingArray (flaw : Flaw) : Flaw :=
  if flaw.fault = .trailingComma then { flaw with fault := .noValue } else flaw

/-- The flaw of an object, as a reader meets it that only passes over the object. -/
def passingObject (flaw : Flaw) : Flaw :=
  if flaw.fault = .trailingComma then { flaw with fault := .keyIsNoString }
  else if flaw.fault = .endsInValue then { flaw with fault := .endsInObject }
  else flaw

/-- What may stand in place of the end of a container. -/
def stopFlaw : Except Flaw Place → Option Flaw
  | .ok _ => none
  | .error flaw => some flaw

/-- The first flaw met when a value is only passed over. -/
def passing : Outline → Option Flaw
  | arr _ items stop => (passingItems items).or ((stopFlaw stop).map passingArray)
  | obj _ members stop => (passingMembers members).or ((stopFlaw stop).map passingObject)
  | unreadable _ _ flaw => flaw
  | _ => none
where
  passingItems : List (Item Outline) → Option Flaw
    | [] => none
    | ⟨value, _, _⟩ :: rest => (passing value).or (passingItems rest)
  passingMembers : List (Member Outline) → Option Flaw
    | [] => none
    | ⟨_, _, value, _, _⟩ :: rest => (passing value).or (passingMembers rest)

/-- Hides a container that lies too deep to be read. -/
def limited (depth : Nat) (c : Cursor) (container : Outline) : Outline :=
  if depth < depthLimit then container
  else unreadable c.rest.head? (c.flaw .tooDeep) container.passing

/-- The characters that numerals consist of. -/
def numeralLength (cs : List Char) : Nat :=
  (cs.takeWhile fun c => Numeral.isDigit c || ['-', '+', '.', 'e', 'E'].contains c).length

/-- The cursor at a rest of the text that begins in a numeral or right behind it. -/
def atRest (c : Cursor) (rest : List Char) : Cursor :=
  ⟨rest, ⟨c.place.line, c.place.column + (numeralLength c.rest - numeralLength rest)⟩⟩

/-- A numeral as an outline. -/
def numeral (c : Cursor) : Outline × Option Cursor :=
  match Numeral.read c.rest with
  | .number n rest => (num n (atRest c rest).place, some (atRest c rest))
  | .tooLarge seen rest =>
    (unreadable c.rest.head? ⟨.numberTooLarge, (atRest c seen).place⟩ none, some (atRest c rest))
  | .broken rest =>
    let flaw (fault : Fault) : Flaw := (atRest c rest).flaw fault
    (unreadable c.rest.head? (flaw (if rest.isEmpty then .endsInValue else .badNumber))
      (some (flaw .badNumber)), none)

/-- The end of an array, looked for behind an item. -/
def closeArray (c : Cursor) : Place × Option Flaw :=
  let c := c.skipSpace
  match c.rest with
  | ']' :: _ => ((c.skip 1).place, none)
  | ',' :: _ =>
    let c := (c.skip 1).skipSpace
    (c.place, some (c.flaw (if c.rest.head? = some ']' then .trailingComma else .trailingText)))
  | [] => (c.place, some (c.flaw .endsInArray))
  | _ => (c.place, some (c.flaw .trailingText))

/-- The end of an object, looked for behind a key or a value. -/
def closeObject (c : Cursor) : Place × Option Flaw :=
  let c := c.skipSpace
  match c.rest with
  | '\x7d' :: _ => ((c.skip 1).place, none)
  | ',' :: _ => (c.place, some (c.flaw .trailingComma))
  | [] => (c.place, some (c.flaw .endsInObject))
  | _ => (c.place, some (c.flaw .noMemberEnd))

def itemOf (value : Outline) (behind : Option Cursor) : Item Outline :=
  match behind with
  | some c => ⟨value, (closeArray c).1, (closeArray c).2⟩
  | none => ⟨value, .start, value.passing⟩

def memberOf (key : Key) (keyed : Cursor) (value : Outline) (behind : Option Cursor) :
    Member Outline :=
  match behind with
  | some c => ⟨key, (closeObject keyed).1, value, (closeObject c).1, (closeObject c).2⟩
  | none => ⟨key, (closeObject keyed).1, value, .start, value.passing⟩

/-- A container that the text breaks off in: nobody gets to its end. -/
def unended : Except Flaw Place := .ok .start

mutual

/-- Reads one value that `depth` containers enclose. There is no rest when the text is unusable from
some point on. The fuel is the length of the text. -/
def value (fuel depth : Nat) (c : Cursor) : Outline × Option Cursor :=
  match fuel with
  | 0 => (broken none (c.flaw .endsInValue), none)
  | fuel + 1 =>
    let c := c.skipSpace
    match c.rest with
    | [] => (broken none (c.flaw .endsInValue), none)
    | 'n' :: _ => keyword 'n' null ['u', 'l', 'l'] (c.skip 1)
    | 't' :: _ => keyword 't' (bool true) ['r', 'u', 'e'] (c.skip 1)
    | 'f' :: _ => keyword 'f' (bool false) ['a', 'l', 's', 'e'] (c.skip 1)
    | '"' :: _ =>
      match string (c.skip 1) with
      | (.ok (s, rest), _) => (str s rest.place, some rest)
      | (.error flaw, .ok rest) => (unreadable (some '"') flaw none, some rest)
      | (.error flaw, .error later) => (unreadable (some '"') flaw (some later), none)
    | '[' :: _ =>
      let (items, stop, rest) := arrayItems fuel (depth + 1) true (c.skip 1) []
      (limited depth c (arr c.place items stop), rest)
    | '\x7b' :: _ =>
      let (members, stop, rest) := objectMembers fuel (depth + 1) true (c.skip 1) []
      (limited depth c (obj c.place members stop), rest)
    | first :: _ =>
      if first = '-' || Numeral.isDigit first then numeral c
      else (broken (some first) (c.flaw .noValue), none)

/-- The items up to the closing bracket. -/
def arrayItems (fuel depth : Nat) (first : Bool) (c : Cursor) (acc : List (Item Outline)) :
    List (Item Outline) × Except Flaw Place × Option Cursor :=
  match fuel with
  | 0 => (acc.reverse, .error (c.flaw .endsInArray), none)
  | fuel + 1 =>
    let c := c.skipSpace
    let next (c : Cursor) : List (Item Outline) × Except Flaw Place × Option Cursor :=
      match value fuel depth c with
      | (item, some rest) => arrayItems fuel depth false rest (itemOf item (some rest) :: acc)
      | (item, none) => ((itemOf item none :: acc).reverse, unended, none)
    match c.rest with
    | [] => (acc.reverse, .error (c.flaw .endsInArray), none)
    | ']' :: _ => (acc.reverse, .ok (c.skip 1).place, some (c.skip 1))
    | sign :: _ =>
      if first then next c
      else if sign = ',' then
        let c := (c.skip 1).skipSpace
        match c.rest with
        | [] => (acc.reverse, .error (c.flaw .endsInValue), none)
        | ']' :: _ => (acc.reverse, .error (c.flaw .trailingComma), none)
        | _ => next c
      else (acc.reverse, .error (c.flaw .noItemEnd), none)

/-- The members up to the closing brace. -/
def objectMembers (fuel depth : Nat) (first : Bool) (c : Cursor) (acc : List (Member Outline)) :
    List (Member Outline) × Except Flaw Place × Option Cursor :=
  match fuel with
  | 0 => (acc.reverse, .error (c.flaw .endsInObject), none)
  | fuel + 1 =>
    let c := c.skipSpace
    let member (c : Cursor) : List (Member Outline) × Except Flaw Place × Option Cursor :=
      let (reading, behind) := string c
      let key := match reading with
        | .ok (s, _) => Key.name s
        | .error flaw => Key.unreadable flaw
      match behind with
      | .error later =>
        ((memberOf key c (broken none later) none :: acc).reverse, unended, none)
      | .ok keyed =>
        let c := keyed.skipSpace
        let halt (fault : Fault) : List (Member Outline) × Except Flaw Place × Option Cursor :=
          ((memberOf key keyed (broken none (c.flaw fault)) none :: acc).reverse, unended, none)
        match c.rest with
        | ':' :: _ =>
          match value fuel depth (c.skip 1) with
          | (item, some rest) =>
            objectMembers fuel depth false rest (memberOf key keyed item (some rest) :: acc)
          | (item, none) => ((memberOf key keyed item none :: acc).reverse, unended, none)
        | [] => halt .endsInObject
        | _ => halt .noColon
    match c.rest with
    | [] => (acc.reverse, .error (c.flaw .endsInObject), none)
    | '\x7d' :: _ => (acc.reverse, .ok (c.skip 1).place, some (c.skip 1))
    | '"' :: _ =>
      if first then member (c.skip 1) else (acc.reverse, .error (c.flaw .noMemberEnd), none)
    | sign :: _ =>
      if first then (acc.reverse, .error (c.flaw .keyIsNoString), none)
      else if sign = ',' then
        let c := (c.skip 1).skipSpace
        match c.rest with
        | [] => (acc.reverse, .error (c.flaw .endsInValue), none)
        | '"' :: _ => member (c.skip 1)
        | '\x7d' :: _ => (acc.reverse, .error (c.flaw .trailingComma), none)
        | _ => (acc.reverse, .error (c.flaw .keyIsNoString), none)
      else (acc.reverse, .error (c.flaw .noMemberEnd), none)

end

/-- The outline of a whole text, and the flaw of what follows its value. -/
def ofText (text : String) : Outline × Option Flaw :=
  match value (2 * text.length + 2) 0 (.ofText text) with
  | (outline, some rest) =>
    let rest := rest.skipSpace
    (outline, if rest.rest.isEmpty then none else some (rest.flaw .trailingText))
  | (outline, none) => (outline, none)

end Outline

mutual

/-- The outline of a value, which has no flaws and no places of its own. -/
def outline : Json → Outline
  | null => .null .start
  | bool b => .bool b .start
  | num n => .num n .start
  | str s => .str s .start
  | arr items => .arr .start (outlineItems items) (.ok .start)
  | obj members => .obj .start (outlineMembers members) (.ok .start)

def outlineItems : List Json → List (Item Outline)
  | [] => []
  | item :: rest => ⟨outline item, .start, none⟩ :: outlineItems rest

def outlineMembers : List (String × Json) → List (Member Outline)
  | [] => []
  | (key, value) :: rest =>
    ⟨.name key, .start, outline value, .start, none⟩ :: outlineMembers rest

end

end BrowserScript.Json

import BrowserScript.Text.Blank
import BrowserScript.Script.Variables

/-!
# Templates

A template is a text with placeholders: two opening braces, a name, two closing braces, with blanks
allowed around the name. Placeholders are found from left to right and do not overlap. A defined
name is replaced by its value, which is not looked at again; an undefined one stays as it is and is
reported.
-/

namespace BrowserScript

/-- A placeholder as it is written. -/
structure Placeholder where
  before : List Char
  name : List Char
  after : List Char
  deriving DecidableEq, Repr

namespace Placeholder

def isNameChar (c : Char) : Bool :=
  c.isAlphanum || c = '_' || c = '.' || c = '-'

/-- The text of a placeholder, braces and blanks included. -/
def text (p : Placeholder) : List Char :=
  '{' :: '{' :: (p.before ++ p.name ++ p.after) ++ ['}', '}']

/-- The placeholder at the front of a text, and the text behind it. -/
def atFront? (cs : List Char) : Option (Placeholder × List Char) :=
  match cs with
  | '{' :: '{' :: rest =>
    let before := rest.takeWhile Text.isBlank
    let rest := rest.dropWhile Text.isBlank
    let name := rest.takeWhile isNameChar
    let rest := rest.dropWhile isNameChar
    let after := rest.takeWhile Text.isBlank
    match name, rest.dropWhile Text.isBlank with
    | _ :: _, '}' :: '}' :: rest => some (⟨before, name, after⟩, rest)
    | _, _ => none
  | _ => none

theorem length_drop_while_le {α : Type} (p : α → Bool) (l : List α) :
    (l.dropWhile p).length ≤ l.length :=
  (List.dropWhile_sublist p).length_le

theorem at_front_shorter {cs rest : List Char} {p : Placeholder}
    (h : atFront? cs = some (p, rest)) : rest.length < cs.length := by
  unfold atFront? at h
  split at h
  · next text =>
    dsimp only at h
    split at h
    · next _ _ tail _ equal =>
      cases h
      have h₁ := length_drop_while_le Text.isBlank text
      have h₂ := length_drop_while_le isNameChar (text.dropWhile Text.isBlank)
      have h₃ := length_drop_while_le Text.isBlank
        ((text.dropWhile Text.isBlank).dropWhile isNameChar)
      rw [equal] at h₃
      simp only [List.length_cons] at h₃ ⊢
      omega
    · cases h
  · cases h

end Placeholder

/-- A piece of a template. -/
inductive Segment where
  | plain (c : Char)
  | hole (p : Placeholder)
  deriving DecidableEq, Repr

namespace Template

/-- The pieces of a template from left to right. -/
def segments (cs : List Char) : List Segment :=
  match h : Placeholder.atFront? cs with
  | some (p, rest) =>
    have := Placeholder.at_front_shorter h
    .hole p :: segments rest
  | none =>
    match cs with
    | [] => []
    | c :: rest => .plain c :: segments rest
termination_by cs.length

/-- A piece with its value in place, and the name it misses if it has none. -/
def fill (vars : Variables) : Segment → List Char × List String
  | .plain c => ([c], [])
  | .hole p =>
    let name := String.ofList p.name
    match vars.get? name with
    | some value => (value.toList, [])
    | none => (p.text, [name])

/-- The whole template filled, with the missing names in order. -/
def scan (cs : List Char) (vars : Variables) : List Char × List String :=
  let filled := (segments cs).map (fill vars)
  (filled.flatMap Prod.fst, filled.flatMap Prod.snd)

/-- Whether two opening braces stand together anywhere. -/
def hasOpening : List Char → Bool
  | '{' :: '{' :: _ => true
  | _ :: rest => hasOpening rest
  | [] => false

/-- A text with its placeholders filled, and the names that were missing. A text without two opening
braces is not scanned. -/
def substitute (template : String) (vars : Variables) : String × List String :=
  if hasOpening template.toList then
    let (filled, missing) := scan template.toList vars
    (String.ofList filled, missing)
  else (template, [])

mutual

/-- Fills the strings of a value in the order they stand; keys stay as they are. -/
def substituteJson (vars : Variables) : Json → Json × List String
  | .str s =>
    let (filled, missing) := substitute s vars
    (.str filled, missing)
  | .arr items =>
    let (filled, missing) := substituteItems vars items
    (.arr filled, missing)
  | .obj members =>
    let (filled, missing) := substituteMembers vars members
    (.obj filled, missing)
  | value => (value, [])

def substituteItems (vars : Variables) : List Json → List Json × List String
  | [] => ([], [])
  | item :: rest =>
    let (filled, missing) := substituteJson vars item
    let (others, more) := substituteItems vars rest
    (filled :: others, missing ++ more)

def substituteMembers (vars : Variables) :
    List (String × Json) → List (String × Json) × List String
  | [] => ([], [])
  | (key, value) :: rest =>
    let (filled, missing) := substituteJson vars value
    let (others, more) := substituteMembers vars rest
    ((key, filled) :: others, missing ++ more)

end

/-- The report of a missing name. -/
def missingReport (name : String) : String :=
  "unresolved placeholder \x7b\x7b" ++ name ++ "\x7d\x7d left as-is"

end Template

end BrowserScript

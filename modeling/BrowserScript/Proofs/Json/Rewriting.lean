import BrowserScript.Json.Decoder

/-!
# Rewriting the strings of a document

A function on texts is applied to every string of a value, or of an outline; keys, numbers and the
shape of the document stay. Main results: `Json.outline_mapText`, `Json.mapText_mapText`,
`Outline.passing_mapText`, `Outline.closingFlaw_mapItems`.
-/

set_option autoImplicit false

namespace BrowserScript

namespace Json

mutual

/-- The value with every string in it rewritten; keys stay as they are. -/
def mapText (f : String → String) : Json → Json
  | null => null
  | bool b => bool b
  | num n => num n
  | str s => str (f s)
  | arr items => arr (mapItems f items)
  | obj members => obj (mapMembers f members)

def mapItems (f : String → String) : List Json → List Json
  | [] => []
  | item :: rest => mapText f item :: mapItems f rest

def mapMembers (f : String → String) : List (String × Json) → List (String × Json)
  | [] => []
  | (key, value) :: rest => (key, mapText f value) :: mapMembers f rest

end

variable (f g : String → String)

mutual

theorem mapText_mapText (value : Json) :
    (value.mapText f).mapText g = value.mapText fun s => g (f s) := by
  cases value with
  | null | bool | num | str => rfl
  | arr items => exact congrArg arr (mapItems_mapItems items)
  | obj members => exact congrArg obj (mapMembers_mapMembers members)

theorem mapItems_mapItems (items : List Json) :
    mapItems g (mapItems f items) = mapItems (fun s => g (f s)) items := by
  cases items with
  | nil => rfl
  | cons item rest =>
    simp only [mapItems]
    rw [mapText_mapText item, mapItems_mapItems rest]

theorem mapMembers_mapMembers (members : List (String × Json)) :
    mapMembers g (mapMembers f members) = mapMembers (fun s => g (f s)) members := by
  cases members with
  | nil => rfl
  | cons member rest =>
    obtain ⟨key, value⟩ := member
    simp only [mapMembers]
    rw [mapText_mapText value, mapMembers_mapMembers rest]

end

theorem get?_mapMembers (key : String) (members : Members) :
    Members.get? key (mapMembers f members) = (Members.get? key members).map (mapText f) := by
  induction members with
  | nil => rfl
  | cons member rest induction =>
    obtain ⟨k, value⟩ := member
    simp only [mapMembers, Members.get?]
    split
    · rfl
    · exact induction

theorem field?_mapText (key : String) (value : Json) :
    (value.mapText f).field? key = (value.field? key).map (mapText f) := by
  cases value with
  | null | bool | num | str | arr => rfl
  | obj members => exact get?_mapMembers f key members

namespace Outline

mutual

def mapText (f : String → String) : Outline → Outline
  | null after => null after
  | bool b after => bool b after
  | num n after => num n after
  | str s after => str (f s) after
  | arr before items stop => arr before (mapItems f items) stop
  | obj before members stop => obj before (mapMembers f members) stop
  | unreadable lead flaw passing => unreadable lead flaw passing

def mapItems (f : String → String) : List (Item Outline) → List (Item Outline)
  | [] => []
  | ⟨value, settled, closing⟩ :: rest => ⟨mapText f value, settled, closing⟩ :: mapItems f rest

def mapMembers (f : String → String) : List (Member Outline) → List (Member Outline)
  | [] => []
  | ⟨key, keyed, value, settled, closing⟩ :: rest =>
    ⟨key, keyed, mapText f value, settled, closing⟩ :: mapMembers f rest

end

theorem mapItems_eq_map (items : List (Item Outline)) :
    mapItems f items = items.map fun item => { item with value := item.value.mapText f } := by
  induction items with
  | nil => rfl
  | cons item rest induction => simp only [mapItems, List.map_cons, induction]

theorem length_mapItems (items : List (Item Outline)) :
    (mapItems f items).length = items.length := by
  rw [mapItems_eq_map, List.length_map]

mutual

/-- What a reader meets that only passes over a value has nothing to do with its strings. -/
theorem passing_mapText (o : Outline) : (o.mapText f).passing = o.passing := by
  cases o with
  | null | bool | num | str | unreadable => rfl
  | arr before items stop =>
    simp only [mapText, passing]
    rw [passingItems_mapItems items]
  | obj before members stop =>
    simp only [mapText, passing]
    rw [passingMembers_mapMembers members]

theorem passingItems_mapItems (items : List (Item Outline)) :
    passing.passingItems (mapItems f items) = passing.passingItems items := by
  cases items with
  | nil => rfl
  | cons item rest =>
    obtain ⟨value, settled, closing⟩ := item
    simp only [mapItems, passing.passingItems]
    rw [passing_mapText value, passingItems_mapItems rest]

theorem passingMembers_mapMembers (members : List (Member Outline)) :
    passing.passingMembers (mapMembers f members) = passing.passingMembers members := by
  cases members with
  | nil => rfl
  | cons member rest =>
    obtain ⟨key, keyed, value, settled, closing⟩ := member
    simp only [mapMembers, passing.passingMembers]
    rw [passing_mapText value, passingMembers_mapMembers rest]

end

mutual

theorem mapText_id (o : Outline) : o.mapText id = o := by
  cases o with
  | null | bool | num | str | unreadable => rfl
  | arr before items stop => exact congrArg (arr before · stop) (mapItems_id items)
  | obj before members stop => exact congrArg (obj before · stop) (mapMembers_id members)

theorem mapItems_id (items : List (Item Outline)) : mapItems id items = items := by
  cases items with
  | nil => rfl
  | cons item rest =>
    obtain ⟨value, settled, closing⟩ := item
    simp only [mapItems]
    rw [mapText_id value, mapItems_id rest]

theorem mapMembers_id (members : List (Member Outline)) : mapMembers id members = members := by
  cases members with
  | nil => rfl
  | cons member rest =>
    obtain ⟨key, keyed, value, settled, closing⟩ := member
    simp only [mapMembers]
    rw [mapText_id value, mapMembers_id rest]

end

/-- What is found in place of the end of an array stays what it is. -/
theorem closingFlaw_mapItems (elements left : List (Item Outline)) :
    Fields.closingFlaw (mapItems f elements) (mapItems f left) =
      Fields.closingFlaw elements left := by
  unfold Fields.closingFlaw
  rw [length_mapItems, length_mapItems, mapItems_eq_map, ← List.map_take, List.getLast?_map]
  cases (elements.take (elements.length - left.length)).getLast? <;> rfl

end Outline

mutual

theorem outline_mapText (value : Json) : (value.mapText f).outline = value.outline.mapText f := by
  cases value with
  | null | bool | num | str => rfl
  | arr items =>
    simp only [mapText, outline, Outline.mapText]
    rw [outlineItems_mapItems items]
  | obj members =>
    simp only [mapText, outline, Outline.mapText]
    rw [outlineMembers_mapMembers members]

theorem outlineItems_mapItems (items : List Json) :
    outlineItems (mapItems f items) = Outline.mapItems f (outlineItems items) := by
  cases items with
  | nil => rfl
  | cons item rest =>
    simp only [mapItems, outlineItems, Outline.mapItems]
    rw [outline_mapText item, outlineItems_mapItems rest]

theorem outlineMembers_mapMembers (members : List (String × Json)) :
    outlineMembers (mapMembers f members) = Outline.mapMembers f (outlineMembers members) := by
  cases members with
  | nil => rfl
  | cons member rest =>
    obtain ⟨key, value⟩ := member
    simp only [mapMembers, outlineMembers, Outline.mapMembers]
    rw [outline_mapText value, outlineMembers_mapMembers rest]

end

end Json

end BrowserScript

import Mathlib.Data.List.Forall2
import BrowserScript.Json.Decoder
import BrowserScript.Json.Written

/-!
# Documents that show a value

An outline shows a value if it has no flaws and the members of its objects stand in the same order;
its places do not matter. As a document is free to order the members of an object, values are
compared up to that order. Main definitions: `Shows`, `Rearranged`, `Displays`. Main results:
`shows_outline`, `json_of_shows`, `Displays.obj`.
-/

set_option autoImplicit false

namespace BrowserScript.Json

/-- The outline is one of the value, at any places. -/
inductive Shows : Json → Outline → Prop
  | null (after : Place) : Shows .null (.null after)
  | bool (b : Bool) (after : Place) : Shows (.bool b) (.bool b after)
  | num (n : Number) (after : Place) : Shows (.num n) (.num n after)
  | str (s : String) (after : Place) : Shows (.str s) (.str s after)
  | arr {items : List Json} {elements : List (Item Outline)} (before place : Place)
      (each : List.Forall₂ Shows items (elements.map Item.value)) :
      Shows (.arr items) (.arr before elements (.ok place))
  | obj {members : List (String × Json)} {shown : List (Member Outline)} (before place : Place)
      (keys : shown.map Member.key = (members.map Prod.fst).map Key.name)
      (each : List.Forall₂ Shows (members.map Prod.snd) (shown.map Member.value)) :
      Shows (.obj members) (.obj before shown (.ok place))

/-- The second value is the first with the members of objects, at any depth, in another order. -/
inductive Rearranged : Json → Json → Prop
  | null : Rearranged .null .null
  | bool (b : Bool) : Rearranged (.bool b) (.bool b)
  | num (n : Number) : Rearranged (.num n) (.num n)
  | str (s : String) : Rearranged (.str s) (.str s)
  | arr {items others : List Json} (each : List.Forall₂ Rearranged items others) :
      Rearranged (.arr items) (.arr others)
  | obj {members between others : List (String × Json)} (order : between.Perm members)
      (keys : others.map Prod.fst = between.map Prod.fst)
      (each : List.Forall₂ Rearranged (between.map Prod.snd) (others.map Prod.snd)) :
      Rearranged (.obj members) (.obj others)

namespace Rearranged

mutual

theorem refl (value : Json) : Rearranged value value := by
  cases value with
  | null => exact .null
  | bool b => exact .bool b
  | num n => exact .num n
  | str s => exact .str s
  | arr items => exact .arr (items_refl items)
  | obj members => exact .obj (.refl _) rfl (members_refl members)

theorem items_refl (items : List Json) : List.Forall₂ Rearranged items items := by
  cases items with
  | nil => exact .nil
  | cons item rest => exact .cons (refl item) (items_refl rest)

theorem members_refl (members : List (String × Json)) :
    List.Forall₂ Rearranged (members.map Prod.snd) (members.map Prod.snd) := by
  cases members with
  | nil => exact .nil
  | cons member rest =>
    obtain ⟨key, value⟩ := member
    exact .cons (refl value) (members_refl rest)

end

/-- The order of the members does not matter. -/
theorem of_perm {members others : List (String × Json)} {value : Json}
    (order : others.Perm members) (rearranged : Rearranged (.obj others) value) :
    Rearranged (.obj members) value := by
  cases rearranged with
  | obj inner keys each => exact .obj (inner.trans order) keys each

end Rearranged

theorem keys_outlineMembers (members : List (String × Json)) :
    (outlineMembers members).map Member.key = (members.map Prod.fst).map Key.name := by
  induction members with
  | nil => rfl
  | cons member rest induction =>
    obtain ⟨key, value⟩ := member
    exact congrArg (Key.name key :: ·) induction

mutual

theorem shows_outline (value : Json) : Shows value value.outline := by
  cases value with
  | null => exact .null _
  | bool b => exact .bool b _
  | num n => exact .num n _
  | str s => exact .str s _
  | arr items => exact .arr _ _ (shows_outlineItems items)
  | obj members => exact .obj _ _ (keys_outlineMembers members) (shows_outlineMembers members)

theorem shows_outlineItems (items : List Json) :
    List.Forall₂ Shows items ((outlineItems items).map Item.value) := by
  cases items with
  | nil => exact .nil
  | cons item rest => exact .cons (shows_outline item) (shows_outlineItems rest)

theorem shows_outlineMembers (members : List (String × Json)) :
    List.Forall₂ Shows (members.map Prod.snd) ((outlineMembers members).map Member.value) := by
  cases members with
  | nil => exact .nil
  | cons member rest =>
    obtain ⟨key, value⟩ := member
    exact .cons (shows_outline value) (shows_outlineMembers rest)

end

/-! ## Reading any value -/

mutual

/-- A document that shows a value can be read as some value. -/
theorem json_of_shows {value : Json} (o : Outline) (shown : Shows value o) :
    ∃ found, Decoder.json o = .ok found := by
  cases o with
  | null | bool | num | str => exact ⟨_, rfl⟩
  | arr before elements stop =>
    cases shown with
    | arr _ place each =>
      obtain ⟨found, read⟩ := jsonItems_of_shows elements place each
      exact ⟨_, congrArg (Except.map Json.arr) read⟩
  | obj before members stop =>
    cases shown with
    | obj _ place keys each =>
      obtain ⟨found, read⟩ := jsonMembers_of_shows members place keys each
      exact ⟨_, congrArg (Except.map Json.ofMembers) read⟩
  | unreadable lead flaw passing => cases shown

theorem jsonItems_of_shows {items : List Json} (elements : List (Item Outline)) (place : Place)
    (each : List.Forall₂ Shows items (elements.map Item.value)) :
    ∃ found, Decoder.jsonItems elements (.ok place) = .ok found := by
  cases elements with
  | nil => exact ⟨[], rfl⟩
  | cons element rest =>
    obtain ⟨value, settled, closing⟩ := element
    cases each with
    | cons first others =>
      obtain ⟨here, one⟩ := json_of_shows value first
      obtain ⟨later, more⟩ := jsonItems_of_shows rest place others
      refine ⟨here :: later, ?_⟩
      simp only [Decoder.jsonItems]
      rw [one, more]
      rfl

theorem jsonMembers_of_shows {values : List Json} {names : List String}
    (members : List (Member Outline)) (place : Place)
    (keys : members.map Member.key = names.map Key.name)
    (each : List.Forall₂ Shows values (members.map Member.value)) :
    ∃ found, Decoder.jsonMembers members (.ok place) = .ok found := by
  cases members with
  | nil => exact ⟨[], rfl⟩
  | cons member rest =>
    obtain ⟨key, keyed, value, settled, closing⟩ := member
    cases each with
    | cons first others =>
      cases names with
      | nil => cases keys
      | cons name names =>
        obtain ⟨same, left⟩ := List.cons.inj keys
        dsimp only at same
        subst same
        obtain ⟨here, one⟩ := json_of_shows value first
        obtain ⟨later, more⟩ := jsonMembers_of_shows rest place left others
        refine ⟨(name, here) :: later, ?_⟩
        simp only [Decoder.jsonMembers]
        rw [one, more]
        rfl

end

/-! ## Documents with members in any order -/

/-- The outline is one of the value, with the members of its objects in any order. -/
def Displays (value : Json) (o : Outline) : Prop := ∃ other, Rearranged value other ∧ Shows other o

/-- A member of an outline, and what it displays. -/
abbrev Member.Displays (member : Member Outline) (pair : String × Json) : Prop :=
  member.key = .name pair.1 ∧ Json.Displays pair.2 member.value

namespace Displays

theorem str {s : String} {o : Outline} (displayed : Displays (.str s) o) :
    ∃ after, o = .str s after := by
  obtain ⟨other, rearranged, shown⟩ := displayed
  cases rearranged
  cases shown
  exact ⟨_, rfl⟩

theorem bool {b : Bool} {o : Outline} (displayed : Displays (.bool b) o) :
    ∃ after, o = .bool b after := by
  obtain ⟨other, rearranged, shown⟩ := displayed
  cases rearranged
  cases shown
  exact ⟨_, rfl⟩

theorem num {n : Number} {o : Outline} (displayed : Displays (.num n) o) :
    ∃ after, o = .num n after := by
  obtain ⟨other, rearranged, shown⟩ := displayed
  cases rearranged
  cases shown
  exact ⟨_, rfl⟩

theorem null {o : Outline} (displayed : Displays .null o) : ∃ after, o = .null after := by
  obtain ⟨other, rearranged, shown⟩ := displayed
  cases rearranged
  cases shown
  exact ⟨_, rfl⟩

theorem of_null {value : Json} {after : Place} (displayed : Displays value (.null after)) :
    value = .null := by
  obtain ⟨other, rearranged, shown⟩ := displayed
  cases shown
  cases rearranged
  rfl

theorem members {between others : List (String × Json)} {shown : List (Member Outline)}
    (names : others.map Prod.fst = between.map Prod.fst)
    (rearranged : List.Forall₂ Rearranged (between.map Prod.snd) (others.map Prod.snd))
    (keys : shown.map Member.key = (others.map Prod.fst).map Key.name)
    (each : List.Forall₂ Shows (others.map Prod.snd) (shown.map Member.value)) :
    List.Forall₂ Member.Displays shown between := by
  induction between generalizing others shown with
  | nil =>
    cases others with
    | cons other others => cases names
    | nil =>
      cases shown with
      | cons member shown => cases keys
      | nil => exact .nil
  | cons pair between induction =>
    cases others with
    | nil => cases names
    | cons other others =>
      cases shown with
      | nil => cases keys
      | cons member shown =>
        obtain ⟨name, names⟩ := List.cons.inj names
        obtain ⟨key, keys⟩ := List.cons.inj keys
        cases rearranged with
        | cons rearranged rest =>
          cases each with
          | cons first each =>
            exact .cons ⟨key.trans (congrArg Key.name name), other.2, rearranged, first⟩
              (induction names rest keys each)

/-- The members of an object are those of its outline, in some order. -/
theorem obj {members : List (String × Json)} {o : Outline}
    (displayed : Displays (.obj members) o) :
    ∃ before shown place pairs, o = .obj before shown (.ok place) ∧ pairs.Perm members ∧
      List.Forall₂ Member.Displays shown pairs := by
  obtain ⟨other, rearranged, shown⟩ := displayed
  cases rearranged with
  | obj order names rearranged =>
    cases shown with
    | obj before place keys each =>
      exact ⟨before, _, place, _, rfl, order, Displays.members names rearranged keys each⟩

theorem of_members {members pairs : List (String × Json)} {shown : List (Member Outline)}
    (order : pairs.Perm members) (each : List.Forall₂ Member.Displays shown pairs)
    (before place : Place) : Displays (.obj members) (.obj before shown (.ok place)) := by
  have others : ∃ others : List (String × Json), others.map Prod.fst = pairs.map Prod.fst ∧
      List.Forall₂ Rearranged (pairs.map Prod.snd) (others.map Prod.snd) ∧
      shown.map Member.key = (others.map Prod.fst).map Key.name ∧
      List.Forall₂ Shows (others.map Prod.snd) (shown.map Member.value) := by
    clear order
    induction each with
    | nil => exact ⟨[], rfl, .nil, rfl, .nil⟩
    | @cons member pair shown pairs here _ induction =>
      obtain ⟨key, other, rearranged, first⟩ := here
      obtain ⟨others, names, rest, keys, each⟩ := induction
      refine ⟨(pair.1, other) :: others, congrArg (pair.1 :: ·) names, .cons rearranged rest, ?_,
        .cons first each⟩
      simp only [List.map_cons, key, keys]
  obtain ⟨others, names, rearranged, keys, each⟩ := others
  exact ⟨.obj others, .obj order names rearranged, .obj before place keys each⟩

theorem json {value : Json} {o : Outline} (displayed : Displays value o) :
    ∃ found, Decoder.json o = .ok found := by
  obtain ⟨other, _, shown⟩ := displayed
  exact json_of_shows o shown

end Displays

end BrowserScript.Json

import BrowserScript.Script.Template
import Mathlib.Data.String.Basic

/-!
# Layers of variables

Variables laid over one another answer for a name as the first layer that knows it. Main definition:
`Variables.Layered`. Main results: `Variables.get?_merge`, `Variables.Layered.merge`,
`Variables.Layered.unique`, `Variables.Layered.fill_eq`.
-/

set_option autoImplicit false

namespace BrowserScript

namespace Variables

theorem lookup_cons_eq (name value key : String) (rest : List (String × String)) :
    List.lookup key ((name, value) :: rest) =
      if key = name then some value else rest.lookup key := by
  rw [List.lookup_cons]
  by_cases same : key = name
  · simp [same]
  · rw [if_neg same, beq_false_of_ne same]

theorem lookup_insertEntry (name value key : String) (entries : List (String × String)) :
    (insertEntry name value entries).lookup key =
      if key = name then some value else entries.lookup key := by
  induction entries with
  | nil => exact lookup_cons_eq name value key []
  | cons head rest induction =>
    obtain ⟨n, v⟩ := head
    unfold insertEntry
    split
    · next equal =>
      rw [lookup_cons_eq, lookup_cons_eq, equal]
      split <;> rfl
    · next apart =>
      split
      · rw [lookup_cons_eq]
      · rw [lookup_cons_eq, lookup_cons_eq, induction]
        by_cases own : key = n
        · rw [if_pos own, if_pos own, if_neg fun same => apart (same.symm.trans own)]
        · rw [if_neg own, if_neg own]

theorem get?_insert (vars : Variables) (name value key : String) :
    (vars.insert name value).get? key = if key = name then some value else vars.get? key :=
  lookup_insertEntry name value key vars.entries

/-- A name below all names of some bindings has none among them. -/
theorem lookup_of_below {name : String} {entries : List (String × String)}
    (below : ∀ entry ∈ entries, name < entry.1) : entries.lookup name = none := by
  rw [List.lookup_eq_none_iff]
  intro entry member
  simpa using fun same : name = entry.1 => String.lt_irrefl _ (same ▸ below entry member)

/-- Bindings put in one after the other: the last binding of a name is the only one. -/
theorem get?_insertAll (entries : List (String × String)) (ascending : Ascending entries)
    (vars : Variables) (key : String) :
    (entries.foldl (fun vars entry => vars.insert entry.1 entry.2) vars).get? key =
      (entries.lookup key).or (vars.get? key) := by
  induction entries generalizing vars with
  | nil => rfl
  | cons head rest induction =>
    obtain ⟨name, value⟩ := head
    obtain ⟨below, ordered⟩ := List.pairwise_cons.mp ascending
    rw [List.foldl_cons, induction ordered, get?_insert, lookup_cons_eq]
    by_cases same : key = name
    · rw [if_pos same, if_pos same, same, lookup_of_below below]
      rfl
    · rw [if_neg same, if_neg same]

/-- What is laid over decides, where it knows the name. -/
theorem get?_merge (defaults overrides : Variables) (name : String) :
    (defaults.merge overrides).get? name = (overrides.get? name).or (defaults.get? name) :=
  get?_insertAll overrides.entries overrides.ascending defaults name

/-- Ascending bindings with the same values for all names are the same. -/
theorem ascending_ext {left right : List (String × String)} (leftAscending : Ascending left)
    (rightAscending : Ascending right) (same : ∀ name, left.lookup name = right.lookup name) :
    left = right := by
  induction left generalizing right with
  | nil =>
    cases right with
    | nil => rfl
    | cons head rest =>
      have absent := same head.1
      rw [lookup_cons_eq, if_pos rfl] at absent
      cases absent
  | cons head rest induction =>
    obtain ⟨name, value⟩ := head
    obtain ⟨below, ordered⟩ := List.pairwise_cons.mp leftAscending
    cases right with
    | nil =>
      have absent := same name
      rw [lookup_cons_eq, if_pos rfl] at absent
      cases absent
    | cons other others =>
      obtain ⟨first, held⟩ := other
      obtain ⟨above, arranged⟩ := List.pairwise_cons.mp rightAscending
      have bound : ∀ key, (if key = name then some value else rest.lookup key) =
          if key = first then some held else others.lookup key := by
        intro key
        rw [← lookup_cons_eq, ← lookup_cons_eq]
        exact same key
      -- the lower of two different first names would be bound on one side only
      have heads : name = first := by
        by_contra apart
        have onLeft := bound name
        have onRight := bound first
        rw [if_pos rfl, if_neg apart] at onLeft
        rw [if_pos rfl, if_neg fun same => apart same.symm] at onRight
        rcases lt_trichotomy name first with less | equal | more
        · rw [lookup_of_below fun entry member => lt_trans less (above entry member)] at onLeft
          cases onLeft
        · exact apart equal
        · rw [lookup_of_below fun entry member => lt_trans more (below entry member)] at onRight
          cases onRight
      subst heads
      have values := bound name
      rw [if_pos rfl, if_pos rfl] at values
      obtain rfl := Option.some.inj values
      refine congrArg _ (induction ordered arranged fun key => ?_)
      by_cases own : key = name
      · rw [own, lookup_of_below below, lookup_of_below above]
      · have others := bound key
        rwa [if_neg own, if_neg own] at others

theorem ext_get {left right : Variables} (same : ∀ name, left.get? name = right.get? name) :
    left = right := by
  cases left with
  | mk leftEntries leftAscending =>
  cases right with
  | mk rightEntries rightAscending =>
  obtain rfl : leftEntries = rightEntries := ascending_ext leftAscending rightAscending same
  rfl

/-- For every name, the variables hold what the first of the layers that knows the name holds. -/
def Layered (layers : List Variables) (vars : Variables) : Prop :=
  ∀ name, vars.get? name = layers.findSome? fun layer => layer.get? name

namespace Layered

theorem single (vars : Variables) : Layered [vars] vars := by
  intro name
  cases known : vars.get? name <;> simp [known]

/-- Layers are laid over layers by merging. -/
theorem merge {upper lower : List Variables} {overrides defaults : Variables}
    (above : Layered upper overrides) (below : Layered lower defaults) :
    Layered (upper ++ lower) (defaults.merge overrides) := by
  intro name
  rw [get?_merge, above, below, List.findSome?_append]

/-- The layers decide everything. -/
theorem unique {layers : List Variables} {left right : Variables} (one : Layered layers left)
    (other : Layered layers right) : left = right :=
  ext_get fun name => (one name).trans (other name).symm

/-- A placeholder is replaced by the value of the first layer that knows its name; if none does, it
stays as it is written and is reported. -/
theorem fill_eq {layers : List Variables} {vars : Variables} (layered : Layered layers vars)
    (p : Placeholder) :
    Template.fill vars (.hole p) =
      match layers.findSome? fun layer => layer.get? (String.ofList p.name) with
      | some value => (value.toList, [])
      | none => (p.text, [String.ofList p.name]) := by
  rw [← layered]
  rfl

end Layered

end Variables

end BrowserScript

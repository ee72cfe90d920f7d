import BrowserScript.Proofs.Lists
import BrowserScript.Relay.Registry

/-!
# The table of cancel flags

What entering a flag into the table and taking it out do to what is found under a script id. Main
definition: `Registry.Sound`. Main results: `Registry.flagsOf_register`,
`Registry.flagsOf_unregister`, `Registry.cancel_found`, `Registry.Sound.mem_running`.
-/

set_option autoImplicit false

namespace BrowserScript.Relay.Registry

/-- Every script id has one entry at most, and no entry is empty. -/
structure Sound (r : Registry) : Prop where
  keyed : (r.running.map Prod.fst).Nodup
  filled : ∀ entry ∈ r.running, entry.2 ≠ []

variable {r : Registry} {id other : String} {flag : FlagId} {flags : List FlagId}
  {table : List (String × List FlagId)}

/-! ## Entering a flag -/

theorem lookup_enter : (enter id flag table).lookup other =
    if other = id then some ((table.lookup id).getD [] ++ [flag]) else table.lookup other := by
  induction table with
  | nil =>
    by_cases same : other = id
    · simp [enter, same]
    · simp [enter, lookup_cons_ne same, same]
  | cons entry rest induction =>
    obtain ⟨key, flags⟩ := entry
    by_cases here : key = id
    · subst here
      rw [enter, if_pos rfl]
      by_cases same : other = key
      · simp [same]
      · simp [lookup_cons_ne same, same]
    · rw [enter, if_neg here, lookup_cons_ne (Ne.symm here)]
      by_cases first : other = key
      · subst first
        simp [here]
      · rw [lookup_cons_ne first, lookup_cons_ne first]
        exact induction

example : enter "a" 2 [("a", [1]), ("b", [3])] = [("a", [1, 2]), ("b", [3])] := by cbv

theorem keys_enter : (enter id flag table).map Prod.fst =
    if id ∈ table.map Prod.fst then table.map Prod.fst else table.map Prod.fst ++ [id] := by
  induction table with
  | nil => rfl
  | cons entry rest induction =>
    obtain ⟨key, flags⟩ := entry
    by_cases here : key = id
    · subst here
      simp [enter]
    · rw [enter, if_neg here, List.map_cons, induction]
      by_cases later : id ∈ rest.map Prod.fst
      · simp [later]
      · simp [later, Ne.symm here]

theorem filled_enter (filled : ∀ entry ∈ table, entry.2 ≠ []) :
    ∀ entry ∈ enter id flag table, entry.2 ≠ [] := by
  induction table with
  | nil => simp [enter]
  | cons first rest induction =>
    obtain ⟨key, flags⟩ := first
    obtain ⟨here, later⟩ := List.forall_mem_cons.mp filled
    rw [enter]
    split
    · exact List.forall_mem_cons.mpr ⟨by simp, later⟩
    · exact List.forall_mem_cons.mpr ⟨here, induction later⟩

theorem Sound.register (sound : Sound r) (id : String) : Sound (r.register id).1 where
  keyed := by
    change ((enter id r.nextFlag r.running).map Prod.fst).Nodup
    rw [keys_enter]
    split
    · exact sound.keyed
    · next absent =>
      refine List.nodup_append.mpr ⟨sound.keyed, List.pairwise_singleton _ _, ?_⟩
      rintro key member _ last rfl
      exact absent (List.mem_singleton.mp last ▸ member)
  filled := filled_enter sound.filled

theorem flagsOf_register : (r.register id).1.flagsOf other =
    if other = id then r.flagsOf id ++ [r.nextFlag] else r.flagsOf other := by
  change ((enter id r.nextFlag r.running).lookup other).getD [] = _
  rw [lookup_enter]
  split <;> rfl

/-! ## Taking a flag out -/

theorem lookup_leave (keyed : (table.map Prod.fst).Nodup) :
    ((leave id flag table).lookup other).getD [] =
      if other = id then ((table.lookup id).getD []).filter fun held => held != flag
      else (table.lookup other).getD [] := by
  induction table with
  | nil => simp [leave]
  | cons entry rest induction =>
    obtain ⟨key, flags⟩ := entry
    obtain ⟨new, keyed⟩ := List.nodup_cons.mp keyed
    by_cases here : key = id
    · subst here
      rw [leave, if_pos rfl, List.lookup_cons_self]
      by_cases same : other = key
      · subst same
        rw [if_pos rfl, Option.getD_some]
        split
        · next none => rw [none, lookup_eq_none new, Option.getD_none]
        · next left => rw [List.lookup_cons_self, Option.getD_some]
      · rw [if_neg same, lookup_cons_ne same]
        split
        · rfl
        · rw [lookup_cons_ne same]
    · rw [leave, if_neg here, lookup_cons_ne (Ne.symm here)]
      by_cases first : other = key
      · subst first
        simp [here]
      · rw [lookup_cons_ne first, lookup_cons_ne first]
        exact induction keyed

example : leave "a" 1 [("a", [1]), ("b", [3])] = [("b", [3])] := by cbv

theorem keys_leave : ((leave id flag table).map Prod.fst).Sublist (table.map Prod.fst) := by
  induction table with
  | nil => exact .slnil
  | cons entry rest induction =>
    obtain ⟨key, flags⟩ := entry
    rw [leave]
    split
    · split
      · exact List.sublist_cons_self _ _
      · exact List.Sublist.refl _
    · exact induction.cons_cons _

theorem filled_leave (filled : ∀ entry ∈ table, entry.2 ≠ []) :
    ∀ entry ∈ leave id flag table, entry.2 ≠ [] := by
  induction table with
  | nil => simp [leave]
  | cons first rest induction =>
    obtain ⟨key, flags⟩ := first
    obtain ⟨here, later⟩ := List.forall_mem_cons.mp filled
    rw [leave]
    split
    · split
      · exact later
      · next left some => exact List.forall_mem_cons.mpr ⟨some, later⟩
    · exact List.forall_mem_cons.mpr ⟨here, induction later⟩

theorem Sound.unregister (sound : Sound r) (id : String) (flag : FlagId) :
    Sound (r.unregister id flag) :=
  ⟨sound.keyed.sublist keys_leave, filled_leave sound.filled⟩

theorem Sound.flagsOf_unregister (sound : Sound r) : (r.unregister id flag).flagsOf other =
    if other = id then (r.flagsOf id).filter fun held => held != flag else r.flagsOf other :=
  lookup_leave sound.keyed

/-! ## What is found -/

/-- The entries are the script ids with flags. -/
theorem Sound.mem_running (sound : Sound r) :
    (id, flags) ∈ r.running ↔ r.flagsOf id = flags ∧ flags ≠ [] := by
  rw [← lookup_eq_some sound.keyed, flagsOf]
  constructor
  · intro found
    rw [found]
    exact ⟨rfl, sound.filled _ ((lookup_eq_some sound.keyed).mp found)⟩
  · rintro ⟨found, some⟩
    cases known : r.running.lookup id with
    | none =>
      rw [known] at found
      exact absurd found.symm some
    | some held =>
      rw [known] at found
      exact congrArg Option.some found

/-- Whether there is a flag to be set. -/
theorem Sound.cancel_found (sound : Sound r) :
    (r.cancel id).2 = true ↔ r.flagsOf id ≠ [] := by
  rw [cancel, flagsOf]
  cases known : r.running.lookup id with
  | none => simp
  | some flags => simpa using sound.filled _ ((lookup_eq_some sound.keyed).mp known)

/-- Cancelling a script sets the flags that are found under its id. -/
theorem isCancelled_cancel :
    (r.cancel id).1.isCancelled flag = true ↔ r.isCancelled flag = true ∨ flag ∈ r.flagsOf id := by
  rw [cancel, flagsOf, isCancelled, isCancelled]
  cases r.running.lookup id with
  | none => simp
  | some flags => simp [or_comm]

theorem running_cancel : (r.cancel id).1.running = r.running := by
  rw [cancel]
  split <;> rfl

theorem nextFlag_cancel : (r.cancel id).1.nextFlag = r.nextFlag := by
  rw [cancel]
  split <;> rfl

theorem Sound.cancel (sound : Sound r) (id : String) : Sound (r.cancel id).1 where
  keyed := by
    rw [running_cancel]
    exact sound.keyed
  filled := by
    rw [running_cancel]
    exact sound.filled

end BrowserScript.Relay.Registry

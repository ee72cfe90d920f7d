import Mathlib.Data.List.Basic

/-!
# Lists as logs and as tables

A log is taken apart at one of its entries, or into blocks, or the entries of one kind are picked
out of it; in a table that has every key once, a lookup finds the entry of the key. Main results:
`split_cons`, `split_after`, `split_before`, `mem_filterMap_of_only`, `blocks_of_order`,
`lookup_eq_some`, `lookup_filter`.
-/

set_option autoImplicit false

namespace BrowserScript

variable {A : Type} {first second before after : List A} {entry : A}

/-- What stands in the middle of a list stands in one of its parts. -/
theorem split_cons (same : first ++ second = before ++ entry :: after) :
    (∃ middle, first = before ++ entry :: middle ∧ after = middle ++ second) ∨
      ∃ middle, before = first ++ middle ∧ second = middle ++ entry :: after := by
  rcases List.append_eq_append_iff.mp same with later | ⟨middle, rfl, onward⟩
  · exact .inr later
  · rcases List.cons_eq_append_iff.mp onward with ⟨rfl, rfl⟩ | ⟨rest, rfl, rfl⟩
    · exact .inr ⟨[], by rw [List.append_nil, List.append_nil], rfl⟩
    · exact .inl ⟨rest, rfl, rfl⟩

/-- What stands in the middle of a list but not in its first part stands behind that part. -/
theorem split_after (absent : entry ∉ first) (same : first ++ second = before ++ entry :: after) :
    ∃ middle, before = first ++ middle ∧ second = middle ++ entry :: after := by
  rcases split_cons same with ⟨middle, rfl, _⟩ | later
  · exact absurd (List.mem_append_right before List.mem_cons_self) absent
  · exact later

/-- What stands in the middle of a list but not in its last part stands in front of that part. -/
theorem split_before (absent : entry ∉ second)
    (same : first ++ second = before ++ entry :: after) :
    ∃ middle, first = before ++ entry :: middle ∧ after = middle ++ second := by
  rcases split_cons same with earlier | ⟨middle, _, rfl⟩
  · exact earlier
  · exact absurd (List.mem_append_right middle List.mem_cons_self) absent

section

variable {B : Type} {pick : A → Option B}

/-- What can be picked out of one entry only is picked out exactly if that entry is there. -/
theorem mem_filterMap_of_only {value : B} {entries : List A}
    (only : ∀ other, pick other = some value ↔ other = entry) :
    value ∈ entries.filterMap pick ↔ entry ∈ entries := by
  rw [List.mem_filterMap]
  simp only [only, exists_eq_right]

theorem filterMap_snoc (entries : List A) (last : A) :
    (entries ++ [last]).filterMap pick = entries.filterMap pick ++ (pick last).toList := by
  rw [List.filterMap_append]
  cases picked : pick last <;> simp [picked]

end

section

variable {K : Type} [DecidableEq K] {r : K → K → Prop} {keys : List K} {entries : List A}

/-- In a list that is ordered by a key, the entries with the first key come first. -/
theorem first_block (key : A → K) {first : K} (asymm : ∀ k l, r k l → ¬ r l k)
    (ordered : entries.Pairwise fun a b => key a = key b ∨ r (key a) (key b))
    (least : ∀ a ∈ entries, key a = first ∨ r first (key a)) :
    entries = (entries.filter fun a => key a = first) ++ entries.filter fun a => key a ≠ first := by
  induction entries with
  | nil => rfl
  | cons a rest induction =>
    obtain ⟨here, later⟩ := List.pairwise_cons.mp ordered
    obtain ⟨front, others⟩ := List.forall_mem_cons.mp least
    by_cases same : key a = first
    · rw [List.filter_cons_of_pos (by simpa using same),
        List.filter_cons_of_neg (by simpa using same), List.cons_append, ← induction later others]
    · have greater := front.resolve_left same
      have none : ∀ b ∈ rest, key b ≠ first := by
        rintro b member rfl
        rcases here b member with equal | less
        · exact same equal
        · exact asymm _ _ less greater
      have empty : (a :: rest).filter (fun a => key a = first) = [] := by
        rw [List.filter_eq_nil_iff]
        simpa [same] using none
      have all : (a :: rest).filter (fun a => key a ≠ first) = a :: rest := by
        rw [List.filter_eq_self]
        simpa [same] using none
      rw [empty, all, List.nil_append]

/-- A list that is ordered by a key consists of blocks, one for each key in order. -/
theorem blocks_of_order (key : A → K) (ascending : keys.Pairwise r) (asymm : ∀ k l, r k l → ¬ r l k)
    (ordered : entries.Pairwise fun a b => key a = key b ∨ r (key a) (key b))
    (covered : ∀ a ∈ entries, key a ∈ keys) :
    entries = keys.flatMap fun k => entries.filter fun a => key a = k := by
  induction keys generalizing entries with
  | nil =>
    obtain rfl : entries = [] := List.eq_nil_iff_forall_not_mem.mpr fun a member =>
      List.not_mem_nil (covered a member)
    rfl
  | cons first rest induction =>
    obtain ⟨front, later⟩ := List.pairwise_cons.mp ascending
    have least : ∀ a ∈ entries, key a = first ∨ r first (key a) := fun a member =>
      (List.mem_cons.mp (covered a member)).imp id (front _)
    have others : ∀ a ∈ entries.filter fun a => key a ≠ first, key a ∈ rest := by
      intro a member
      obtain ⟨member, different⟩ := List.mem_filter.mp member
      exact (List.mem_cons.mp (covered a member)).resolve_left (by simpa using different)
    have blocks : (rest.flatMap fun k =>
        (entries.filter fun a => key a ≠ first).filter fun a => key a = k) =
          rest.flatMap fun k => entries.filter fun a => key a = k := by
      refine List.flatMap_congr fun k member => ?_
      rw [List.filter_filter]
      refine List.filter_congr fun a _ => ?_
      have apart : k ≠ first := by
        rintro rfl
        exact asymm _ _ (front k member) (front k member)
      by_cases same : key a = k <;> simp [same, apart]
    have tail := induction later (ordered.sublist List.filter_sublist) others
    rw [List.flatMap_cons, ← blocks, ← tail]
    exact first_block key asymm ordered least

end

variable {K V : Type} [BEq K] [LawfulBEq K] {key : K} {value : V} {table : List (K × V)}

theorem lookup_cons_ne {other : K} (different : key ≠ other) :
    ((other, value) :: table).lookup key = table.lookup key := by
  rw [List.lookup_cons, beq_eq_false_iff_ne.mpr different]

theorem lookup_eq_none (absent : key ∉ table.map Prod.fst) : table.lookup key = none := by
  refine List.lookup_eq_none_iff.mpr fun entry member => bne_iff_ne.mpr ?_
  rintro rfl
  exact absent (List.mem_map_of_mem member)

theorem lookup_eq_some (keyed : (table.map Prod.fst).Nodup) :
    table.lookup key = some value ↔ (key, value) ∈ table := by
  induction table with
  | nil => simp
  | cons entry rest induction =>
    obtain ⟨other, first⟩ := entry
    obtain ⟨new, keyed⟩ := List.nodup_cons.mp keyed
    by_cases same : key = other
    · subst same
      have absent : (key, value) ∉ rest := fun member => new (List.mem_map.mpr ⟨_, member, rfl⟩)
      simp [absent, eq_comm]
    · rw [lookup_cons_ne same, induction keyed, List.mem_cons]
      simp [same]

theorem lookup_filter (kept : K → Bool) :
    (table.filter fun entry => kept entry.1).lookup key =
      if kept key then table.lookup key else none := by
  induction table with
  | nil => simp
  | cons entry rest induction =>
    obtain ⟨other, first⟩ := entry
    simp only [List.filter_cons]
    by_cases same : key = other
    · subst same
      cases known : kept key <;> simp [known, induction]
    · cases known : kept other <;> simp [lookup_cons_ne same, induction]

end BrowserScript

import BrowserScript.Json.Decoder

/-!
# Variables

Named texts for the placeholders of a script. The names are held in ascending order, each once, so
that two collections with the same bindings are equal.
-/

namespace BrowserScript

/-- The names of a list of bindings ascend. -/
def Ascending (entries : List (String × String)) : Prop :=
  entries.Pairwise fun a b => a.1 < b.1

structure Variables where
  entries : List (String × String)
  ascending : Ascending entries

namespace Variables

instance : DecidableEq Variables := fun a b =>
  if h : a.entries = b.entries then
    isTrue (by cases a; cases b; cases h; rfl)
  else isFalse (fun e => h (congrArg entries e))

instance : Repr Variables := ⟨fun v n => reprPrec v.entries n⟩

def empty : Variables := ⟨[], List.Pairwise.nil⟩

instance : Inhabited Variables := ⟨empty⟩

instance : EmptyCollection Variables := ⟨empty⟩

/-- Puts a binding in its place; an earlier one of the same name gives way. -/
def insertEntry (name value : String) : List (String × String) → List (String × String)
  | [] => [(name, value)]
  | (n, v) :: rest =>
    if name = n then (name, value) :: rest
    else if name < n then (name, value) :: (n, v) :: rest
    else (n, v) :: insertEntry name value rest

theorem mem_insert_entry {name value : String} {entries : List (String × String)}
    {entry : String × String} (h : entry ∈ insertEntry name value entries) :
    entry = (name, value) ∨ entry ∈ entries := by
  induction entries with
  | nil => simpa [insertEntry] using h
  | cons head rest induction =>
    obtain ⟨n, v⟩ := head
    unfold insertEntry at h
    split at h
    · rcases List.mem_cons.1 h with h | h
      · exact .inl h
      · exact .inr (List.mem_cons_of_mem _ h)
    · split at h
      · rcases List.mem_cons.1 h with h | h
        · exact .inl h
        · exact .inr h
      · rcases List.mem_cons.1 h with h | h
        · exact .inr (h ▸ List.mem_cons_self)
        · rcases induction h with h | h
          · exact .inl h
          · exact .inr (List.mem_cons_of_mem _ h)

theorem ascending_insert_entry {name value : String} {entries : List (String × String)}
    (h : Ascending entries) : Ascending (insertEntry name value entries) := by
  induction entries with
  | nil => exact List.pairwise_singleton _ _
  | cons head rest induction =>
    obtain ⟨n, v⟩ := head
    have below := (List.pairwise_cons.1 h).1
    have ascending := (List.pairwise_cons.1 h).2
    unfold insertEntry
    split
    · next equal => exact List.pairwise_cons.2 ⟨fun b hb => equal ▸ below b hb, ascending⟩
    · next different =>
      split
      · next less =>
        refine List.pairwise_cons.2 ⟨fun b hb => ?_, h⟩
        rcases List.mem_cons.1 hb with hb | hb
        · exact hb ▸ less
        · exact String.lt_trans less (below b hb)
      · next notLess =>
        refine List.pairwise_cons.2 ⟨fun b hb => ?_, induction ascending⟩
        rcases mem_insert_entry hb with hb | hb
        · subst hb
          rcases Std.Trichotomous.rel_or_eq_or_rel_swap (r := (· < · : String → String → Prop))
            (a := n) (b := name) with h | h | h
          · exact h
          · exact absurd h.symm different
          · exact absurd h notLess
        · exact below b hb

def insert (vars : Variables) (name value : String) : Variables :=
  ⟨insertEntry name value vars.entries, ascending_insert_entry vars.ascending⟩

def get? (vars : Variables) (name : String) : Option String :=
  vars.entries.lookup name

def size (vars : Variables) : Nat := vars.entries.length

def isEmpty (vars : Variables) : Bool := vars.entries.isEmpty

/-- Later bindings of a name replace earlier ones. -/
def ofList (bindings : List (String × String)) : Variables :=
  bindings.foldl (fun vars binding => vars.insert binding.1 binding.2) empty

/-- Lays `overrides` over `defaults`; a name bound in both takes the override. -/
def merge (defaults overrides : Variables) : Variables :=
  overrides.entries.foldl (fun vars entry => vars.insert entry.1 entry.2) defaults

def toJson (vars : Variables) : Json :=
  .obj (vars.entries.map fun entry => (entry.1, .str entry.2))

def decoder : Json.Decoder Variables :=
  (Json.Decoder.dictionary Json.Decoder.string).map ofList

/-- The two sides of the first equals sign. -/
def splitBinding : List Char → Option (List Char × List Char)
  | [] => none
  | c :: rest =>
    if c = '=' then some ([], rest)
    else (splitBinding rest).map fun sides => (c :: sides.1, sides.2)

/-- Reads bindings written `name=value`; an argument without an equals sign is given back. -/
def ofArguments (arguments : List String) : Except String Variables :=
  go empty arguments
where
  go (vars : Variables) : List String → Except String Variables
    | [] => .ok vars
    | argument :: rest =>
      match splitBinding argument.toList with
      | some (name, value) =>
        go (vars.insert (String.ofList name) (String.ofList value)) rest
      | none => .error argument

end Variables

end BrowserScript

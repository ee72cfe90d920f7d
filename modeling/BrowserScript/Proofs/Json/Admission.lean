import BrowserScript.Proofs.Json.Faithful

/-!
# What a decoder admits

A decoder of values in memory succeeds on the values of a certain form. For a record the form is a
list of rules, one for each field; the members may come in any order, and a list of the fields in
their own order stands for the members it leaves unnamed. Main definitions: `Rule`, `Rule.Holds`,
`Lays`, `Decoder.Admits`, `Fields.Asks`. Main results: `Fields.readMembers_eq_ok_iff`,
`Fields.Asks.record_eq_ok_iff`, `Fields.Asks.record_admits`.
-/

set_option autoImplicit false

namespace BrowserScript.Json

/-! ## Forms -/

def IsText (value : Json) : Prop := ∃ s, value = .str s

def IsNumber (value : Json) : Prop := ∃ n, value = .num n

def IsFlag (value : Json) : Prop := ∃ b, value = .bool b

def IsNaturalBelow (bound : Nat) (value : Json) : Prop :=
  ∃ n, value = .num (.natural n) ∧ n.toNat < bound

def OrNull (form : Json → Prop) (value : Json) : Prop := value = .null ∨ form value

def IsListOf (form : Json → Prop) (value : Json) : Prop :=
  ∃ items, value = .arr items ∧ ∀ item ∈ items, form item

/-- One of the names, or an object that maps one of them to `null`. -/
def IsNamed (names : List String) (value : Json) : Prop :=
  ∃ name ∈ names, value = .str name ∨ value = .obj [(name, .null)]

/-- Whether a field has to be there. -/
inductive Presence where
  | needed
  /-- An object may leave it out. -/
  | free
  /-- An object may leave it out, and a list may end before it. -/
  | spare
  deriving DecidableEq

/-- What a record asks for under a name. -/
structure Rule where
  name : String
  presence : Presence
  form : Json → Prop

/-- What is given under a name. -/
def given (name : String) (members : Members) : List Json :=
  (members.filter fun member => member.1 = name).map Prod.snd

/-- The rule is met: the field is left out where it may be, or given once and of the right form. -/
def Rule.Holds (rule : Rule) (members : Members) : Prop :=
  (given rule.name members = [] ∧ rule.presence ≠ .needed) ∨
    ∃ part, given rule.name members = [part] ∧ rule.form part

def Fit (rules : List Rule) (members : Members) : Prop := ∀ rule ∈ rules, rule.Holds members

/-- The value gives the members, by name or as a list in the order of the rules. -/
inductive Lays (rules : List Rule) : Json → Members → Prop
  | named (members : Members) : Lays rules (.obj members) members
  | listed (items : List Json) (short : items.length ≤ rules.length)
      (spare : ∀ rule ∈ rules.drop items.length, rule.presence = .spare) :
      Lays rules (.arr items) ((rules.map Rule.name).zip items)

/-- A record in either of its forms; members that no rule is about are passed over. -/
def IsRecord (rules : List Rule) (value : Json) : Prop :=
  ∃ members, Lays rules value members ∧ Fit rules members

variable {name key : String} {value : Json} {members others : Members}

theorem given_nil (name : String) : given name [] = [] := rfl

theorem given_cons_same (key : String) (value : Json) (members : Members) :
    given key ((key, value) :: members) = value :: given key members := by
  simp [given]

theorem given_cons_other (other : key ≠ name) (value : Json) (members : Members) :
    given name ((key, value) :: members) = given name members := by
  simp [given, other]

theorem given_append (name : String) (members others : Members) :
    given name (members ++ others) = given name members ++ given name others := by
  simp [given]

theorem given_eq_nil (absent : name ∉ members.map Prod.fst) : given name members = [] := by
  simp only [given, List.map_eq_nil_iff, List.filter_eq_nil_iff, decide_eq_true_eq]
  rintro member inside rfl
  exact absent (List.mem_map_of_mem inside)

theorem not_mem_zip {names : List String} (absent : name ∉ names) (items : List Json) :
    name ∉ (names.zip items).map Prod.fst := by
  rintro inside
  obtain ⟨member, paired, rfl⟩ := List.mem_map.mp inside
  exact absent (List.of_mem_zip paired).1

theorem zip_snoc_nil {names : List String} {items : List Json}
    (ends : items.drop names.length = []) (name : String) :
    (names ++ [name]).zip items = names.zip items := by
  induction names generalizing items with
  | nil =>
    obtain rfl : items = [] := ends
    rfl
  | cons first names induction =>
    cases items with
    | nil => rfl
    | cons item items => exact congrArg _ (induction ends)

theorem zip_snoc_cons {names : List String} {items rest : List Json} {item : Json}
    (ends : items.drop names.length = item :: rest) (name : String) :
    (names ++ [name]).zip items = names.zip items ++ [(name, item)] := by
  induction names generalizing items with
  | nil =>
    obtain rfl : items = item :: rest := ends
    rfl
  | cons first names induction =>
    cases items with
    | nil => cases ends
    | cons other items => exact congrArg _ (induction ends)

/-! ## Single values -/

variable {α β : Type} {origin : Origin}

mutual

/-- A value in memory can be passed over. -/
theorem passing_outline (value : Json) : value.outline.passing = none := by
  cases value with
  | null | bool | num | str => rfl
  | arr items => simp [outline, Outline.passing, Outline.stopFlaw, passing_outlineItems items]
  | obj members =>
    simp [outline, Outline.passing, Outline.stopFlaw, passing_outlineMembers members]

theorem passing_outlineItems (items : List Json) :
    Outline.passing.passingItems (outlineItems items) = none := by
  cases items with
  | nil => rfl
  | cons item rest =>
    simp [outlineItems, Outline.passing.passingItems, passing_outline item,
      passing_outlineItems rest]

theorem passing_outlineMembers (members : Members) :
    Outline.passing.passingMembers (outlineMembers members) = none := by
  cases members with
  | nil => rfl
  | cons member rest =>
    obtain ⟨key, value⟩ := member
    simp [outlineMembers, Outline.passing.passingMembers, passing_outline value,
      passing_outlineMembers rest]

end

namespace Decoder

theorem settle_eq_ok_iff {place : Place} {result : Except ReadError α} {a : α} :
    settle place result = .ok a ↔ result = .ok a := by
  cases result <;> simp [settle, Except.mapError]

theorem unplaced_eq_ok_iff {result : Except ReadError α} {a : α} :
    unplaced result = .ok a ↔ result = .ok a := by
  cases result <;> simp [unplaced, Except.mapError]

/-- The decoder succeeds exactly on the values of a form. -/
def Admits (origin : Origin) (d : Decoder α) (form : Json → Prop) : Prop :=
  ∀ value, (∃ a, d origin (outline value) = .ok a) ↔ form value

theorem map_eq_ok_iff {d : Decoder α} {f : α → β} {o : Outline} {b : β} :
    d.map f origin o = .ok b ↔ ∃ a, d origin o = .ok a ∧ f a = b := by
  cases read : d origin o <;> simp [map, read, Except.map]

theorem andThen_eq_ok_iff {d : Decoder α} {check : α → Except Mismatch β} {o : Outline} {b : β} :
    d.andThen check origin o = .ok b ↔ ∃ a, d origin o = .ok a ∧ check a = .ok b := by
  cases read : d origin o with
  | error error => simp [andThen, read]
  | ok a => cases checked : check a <;> simp [andThen, read, checked, fail]

theorem unexpected_ne_ok {expected : String} {o : Outline} {a : α} :
    unexpected expected o ≠ .ok a := by
  cases o <;> simp [unexpected, failAt, brokenText]

/-- A value in memory is complete. -/
theorem hold_eq_ok_iff {d : Decoder α} {a : α} :
    hold d origin (outline value) = .ok a ↔ d .held (outline value) = .ok a := by
  obtain ⟨whole, read⟩ := json_of_shows _ (shows_outline value)
  simp [hold, read, bind, Except.bind, unplaced_eq_ok_iff]

/-- The second of two readings counts where the first fails. -/
theorem firstOf_eq_ok_iff {d e : Decoder α} {name : String} {a : α} :
    firstOf name [d, e] origin (outline value) = .ok a ↔ d .held (outline value) = .ok a ∨
      (¬ ∃ b, d .held (outline value) = .ok b) ∧ e .held (outline value) = .ok a := by
  simp only [firstOf, hold_eq_ok_iff, List.findSome?_cons, List.findSome?_nil]
  cases d .held (outline value) with
  | ok a => simp [Except.toOption]
  | error error => cases e .held (outline value) <;> simp [Except.toOption, fail]

namespace Admits

variable {d e : Decoder α} {form other : Json → Prop}

theorem string : Decoder.string.Admits origin IsText := by
  intro value
  cases value <;> simp [Decoder.string, outline, unexpected_ne_ok, IsText]

theorem bool : Decoder.bool.Admits origin IsFlag := by
  intro value
  cases value <;> simp [Decoder.bool, outline, unexpected_ne_ok, IsFlag]

theorem float : Decoder.float.Admits origin IsNumber := by
  intro value
  cases value <;> simp [Decoder.float, outline, unexpected_ne_ok, IsNumber]

theorem natural (expected : String) (bound : Nat) :
    (Decoder.natural expected bound).Admits origin (IsNaturalBelow bound) := by
  intro value
  cases value with
  | num n =>
    cases n with
    | natural n =>
      by_cases small : n.toNat < bound <;>
        simp [Decoder.natural, outline, IsNaturalBelow, small, failAt]
    | integer | real => simp [Decoder.natural, outline, IsNaturalBelow, unexpected, failAt]
  | null | bool | str | arr | obj =>
    simp [Decoder.natural, outline, unexpected_ne_ok, IsNaturalBelow]

theorem map {d : Decoder α} (inner : d.Admits origin form) (f : α → β) :
    (d.map f).Admits origin form := by
  intro value
  simp [← inner value, map_eq_ok_iff]

theorem uint32 : Decoder.uint32.Admits origin (IsNaturalBelow UInt32.size) := (natural _ _).map _

theorem uint64 : Decoder.uint64.Admits origin (IsNaturalBelow UInt64.size) := (natural _ _).map _

theorem optional (inner : d.Admits origin form) :
    (Decoder.optional d).Admits origin (OrNull form) := by
  intro value
  have some := inner.map Option.some value
  cases value with
  | null => exact iff_of_true ⟨none, rfl⟩ (.inl rfl)
  | bool | num | str | arr | obj =>
    refine some.trans ?_
    simp [OrNull]

theorem list (inner : d.Admits origin form) : (Decoder.list d).Admits origin (IsListOf form) := by
  intro value
  cases value with
  | arr items =>
    simp only [IsListOf, arr.injEq, exists_eq_left', outline, Decoder.list]
    induction items with
    | nil => exact iff_of_true ⟨[], rfl⟩ (by simp)
    | cons item rest induction =>
      rw [List.forall_mem_cons, ← inner item, ← induction, outlineItems, Decoder.items]
      cases first : d origin (outline item) with
      | error error => simp [settle, Except.mapError, bind, Except.bind]
      | ok a =>
        cases Decoder.items d origin (outlineItems rest) (.ok .start) <;>
          simp [settle, Except.mapError, bind, Except.bind, pure, Except.pure]
  | null | bool | num | str | obj =>
    simp [Decoder.list, outline, unexpected_ne_ok, IsListOf]

/-- A value is read in one of two ways. -/
theorem firstOf (name : String) (first : d.Admits .held form) (second : e.Admits .held other) :
    (Decoder.firstOf name [d, e]).Admits origin fun value => form value ∨ other value := by
  intro value
  change _ ↔ form value ∨ other value
  simp only [firstOf_eq_ok_iff, exists_or, exists_and_left, first value, second value]
  by_cases holds : form value <;> simp [holds]

theorem variant (variants : List (String × α)) (known : List String) :
    (Decoder.variant variants known).Admits .value (IsNamed (variants.map Prod.fst)) := by
  have named : ∀ name, (∃ a, variantNamed variants known name = .ok a) ↔
      name ∈ variants.map Prod.fst := by
    intro name
    unfold variantNamed
    cases found : variants.lookup name with
    | none =>
      refine iff_of_false (by simp [fail]) fun member => ?_
      obtain ⟨entry, listed, rfl⟩ := List.mem_map.mp member
      simpa using List.lookup_eq_none_iff.mp found entry listed
    | some a =>
      obtain ⟨before, after, split, -⟩ := List.lookup_eq_some_iff.mp found
      exact iff_of_true ⟨a, rfl⟩ (by simp [split])
  intro value
  match value with
  | .str s => simpa [Decoder.variant, outline, settle_eq_ok_iff, IsNamed] using named s
  | .obj [(name, .null)] =>
    have given := named name
    cases read : variantNamed variants known name <;>
      simpa [Decoder.variant, outline, outlineMembers, read, Decoder.unit, bind, Except.bind,
        IsNamed] using given
  | .obj [(name, .bool _)] | .obj [(name, .num _)] | .obj [(name, .str _)]
  | .obj [(name, .arr _)] | .obj [(name, .obj _)] =>
    cases read : variantNamed variants known name <;>
      simp [Decoder.variant, outline, outlineMembers, read, Decoder.unit, bind, Except.bind,
        IsNamed, unexpected, failAt]
  | .obj [] | .obj (_ :: _ :: _) =>
    simp [Decoder.variant, outline, outlineMembers, fail, IsNamed]
  | .null | .bool _ | .num _ | .arr _ =>
    simp [Decoder.variant, outline, notAVariant, unexpected, failAt, IsNamed]

end Admits

end Decoder

/-! ## Records, field by field -/

namespace Field

/-- What a field holds in the end, from what has been read of it and what is still given for it. -/
def part? (origin : Origin) (field : Field β) : Option β → List Json → Option β
  | some b, [] => some b
  | some _, _ :: _ => none
  | none, [] => field.absent
  | none, [value] => (field.decode origin (outline value)).toOption
  | none, _ :: _ :: _ => none

end Field

namespace Fields

/-- The record, each field read by itself from the members of its name. -/
def assembled? (origin : Origin) (members : Members) {α : Type} : Fields α → Option α
  | done a => some a
  | more before field held => do
    let f ← assembled? origin members before
    let b ← field.part? origin held (given field.name members)
    return f b

theorem assembled?_and (before : Fields (β → α)) (field : Field β) (members : Members) :
    (before.and field).assembled? origin members =
      (before.assembled? origin members).bind fun f =>
        (field.part? origin none (given field.name members)).map f := by
  rw [Fields.and, assembled?]
  cases before.assembled? origin members <;>
    cases field.part? origin none (given field.name members) <;> rfl

/-- Only what is given under the names of the fields counts. -/
theorem assembled?_congr {fields : Fields α}
    (same : ∀ name ∈ fields.names, given name members = given name others) :
    fields.assembled? origin members = fields.assembled? origin others := by
  induction fields with
  | done a => rfl
  | more before field held induction =>
    obtain ⟨here, rest⟩ := List.forall_mem_cons.mp same
    simp only [assembled?, here, induction rest]

theorem assembled?_stranger {fields : Fields α} (origin : Origin) (unknown : key ∉ fields.names)
    (value : Json) (members : Members) :
    fields.assembled? origin ((key, value) :: members) = fields.assembled? origin members := by
  refine assembled?_congr fun name known => given_cons_other ?_ value members
  rintro rfl
  exact unknown known

/-- The member of a value, as a reader meets it. -/
def memberAt (key : String) (value : Json) : Member Outline :=
  ⟨.name key, .start, outline value, .start, none⟩

theorem offer_of_stranger {fields : Fields α} (origin : Origin) (unknown : key ∉ fields.names)
    (value : Json) :
    fields.offer origin key (memberAt key value) = .ok none := by
  induction fields with
  | done a => rfl
  | more before field held induction =>
    simp only [names, List.mem_cons, not_or] at unknown
    simp only [offer, if_neg (Ne.symm unknown.1), induction unknown.2]

/-- A member that a field asks for is read at once: what is left to assemble is the same record. -/
theorem offer_of_known {fields : Fields α} (origin : Origin) (distinct : fields.names.Nodup)
    (known : key ∈ fields.names) (value : Json) :
    (∃ error, fields.offer origin key (memberAt key value) = .error error ∧
      ∀ members, fields.assembled? origin ((key, value) :: members) = none) ∨
    ∃ next, fields.offer origin key (memberAt key value) = .ok (some next) ∧
      next.names = fields.names ∧ ∀ members,
        fields.assembled? origin ((key, value) :: members) = next.assembled? origin members := by
  induction fields with
  | done a => cases known
  | more before field held induction =>
    obtain ⟨new, distinct⟩ := List.nodup_cons.mp distinct
    by_cases mine : field.name = key
    · subst mine
      have others := fun members => assembled?_stranger origin new value members
      cases held with
      | some b =>
        left
        refine ⟨_, if_pos rfl, fun members => ?_⟩
        simp [assembled?, given_cons_same, Field.part?]
      | none =>
        cases read : field.decode origin (outline value) with
        | error error =>
          left
          refine ⟨ReadError.settledAt .start error, ?_, fun members => ?_⟩
          · simp [offer, memberAt, read, Decoder.settle, Except.mapError]
          · cases rest : given field.name members <;>
              simp [assembled?, given_cons_same, Field.part?, read, rest, Except.toOption]
        | ok b =>
          right
          refine ⟨more before field (some b), ?_, rfl, fun members => ?_⟩
          · simp [offer, memberAt, read, Decoder.settle, Except.mapError]
          · cases rest : given field.name members <;>
              simp [assembled?, given_cons_same, Field.part?, read, rest, Except.toOption, others]
    · have inner := (List.mem_cons.mp known).resolve_left (Ne.symm mine)
      have rest := fun members => given_cons_other (Ne.symm mine) value members
      rcases induction distinct inner with ⟨error, offered, failed⟩ | ⟨next, offered, named, same⟩
      · left
        refine ⟨error, ?_, fun members => ?_⟩
        · simp only [offer, if_neg mine, offered]
        · simp only [assembled?, failed members]
          rfl
      · right
        refine ⟨more next field held, ?_, congrArg (field.name :: ·) named, fun members => ?_⟩
        · simp only [offer, if_neg mine, offered]
        · simp only [assembled?, same members, rest]

theorem collect_eq_ok_iff (origin : Origin) {fields : Fields α} {a : α} :
    fields.collect = .ok a ↔ fields.assembled? origin [] = some a := by
  induction fields with
  | done b => simp [collect, assembled?]
  | more before field held induction =>
    have part : field.part? origin held [] = held.or field.absent := by
      cases held <;> rfl
    simp only [collect, assembled?, given, List.filter_nil, List.map_nil, part]
    cases inner : before.collect with
    | error error =>
      cases outer : before.assembled? origin [] with
      | none => simp [bind, Except.bind]
      | some f =>
        rw [induction.mpr outer] at inner
        cases inner
    | ok f =>
      rw [induction.mp inner]
      cases held.or field.absent <;> simp [bind, Except.bind, Decoder.fail]

theorem readMembers_cons (strangers : Strangers) (fields : Fields α) (key : String) (value : Json)
    (rest : List (Member Outline)) (stop : Except Flaw Place) :
    fields.readMembers origin strangers (memberAt key value :: rest) stop =
      match fields.offer origin key (memberAt key value) with
      | .error error => .error error
      | .ok (some next) => next.readMembers origin strangers rest stop
      | .ok none =>
        match strangers with
        | .refused => Decoder.failAt .start (.rule s!"unknown field {tick key}")
        | .passed => fields.readMembers origin strangers rest stop := by
  have passed : (memberAt key value).value.passing = none := passing_outline value
  have named : (memberAt key value).key = .name key := rfl
  rw [readMembers]
  simp only [named]
  cases fields.offer origin key (memberAt key value) with
  | error error => rfl
  | ok next =>
    cases next with
    | some next => rfl
    | none =>
      cases strangers with
      | refused => rfl
      | passed => simp only [passed]

/-- An object is read field by field, whatever the order of its members. -/
theorem readMembers_eq_ok_iff {fields : Fields α} (distinct : fields.names.Nodup)
    (strangers : Strangers) {a : α} :
    fields.readMembers origin strangers (outlineMembers members) (.ok .start) = .ok a ↔
      (strangers = .refused → ∀ member ∈ members, member.1 ∈ fields.names) ∧
        fields.assembled? origin members = some a := by
  induction members generalizing fields with
  | nil =>
    simp [outlineMembers, readMembers, Decoder.settle_eq_ok_iff, collect_eq_ok_iff origin]
  | cons member rest induction =>
    obtain ⟨key, value⟩ := member
    change readMembers origin strangers fields (memberAt key value :: outlineMembers rest) _ = _ ↔ _
    rw [List.forall_mem_cons, readMembers_cons]
    by_cases known : key ∈ fields.names
    · rcases offer_of_known origin distinct known value with
        ⟨error, offered, failed⟩ | ⟨next, offered, named, same⟩
      · simp [offered, failed]
      · have later := @induction next (named ▸ distinct)
        rw [named] at later
        simp only [offered, same, later, known, true_and]
    · have offered := offer_of_stranger origin known value
      simp only [offered, assembled?_stranger origin known, known, false_and]
      cases strangers with
      | refused => simp [Decoder.failAt]
      | passed => simpa using induction distinct

end Fields

/-! ## Records by their rules -/

/-- The field reads what the rule asks for, and may be missing where the rule allows it. -/
structure Field.Meets (origin : Origin) (field : Field β) (rule : Rule) : Prop where
  name : field.name = rule.name
  admits : field.decode.Admits origin rule.form
  absent : field.absent.isSome ↔ rule.presence ≠ .needed
  short : field.short = if rule.presence = .spare then field.absent else none

namespace Field.Meets

variable {d : Decoder β} {form : Json → Prop}

theorem required (name : String) (admits : d.Admits origin form) :
    (Field.required name d).Meets origin ⟨name, .needed, form⟩ :=
  ⟨rfl, admits, by simp [Field.required], rfl⟩

theorem optional (name : String) (admits : d.Admits origin form) :
    (Field.optional name d).Meets origin ⟨name, .free, OrNull form⟩ :=
  ⟨rfl, admits.optional, by simp [Field.optional], rfl⟩

theorem orDefault (name : String) (admits : d.Admits origin form) (value : β) :
    (Field.orDefault name d value).Meets origin ⟨name, .spare, form⟩ :=
  ⟨rfl, admits, by simp [Field.orDefault], rfl⟩

theorem short_eq_some_iff {field : Field β} {rule : Rule} (meets : field.Meets origin rule)
    {b : β} : field.short = some b ↔ rule.presence = .spare ∧ field.absent = some b := by
  rw [meets.short]
  split <;> simp_all

/-- What is given for a field makes a part of the record exactly if the rule holds. -/
theorem part {field : Field β} {rule : Rule} (meets : field.Meets origin rule)
    (members : Members) :
    (field.part? origin none (given field.name members)).isSome ↔ rule.Holds members := by
  rw [meets.name, Rule.Holds]
  match parts : given rule.name members with
  | [] => simpa [Field.part?] using meets.absent
  | [value] =>
    have admits := meets.admits value
    cases read : field.decode origin (outline value) with
    | error error => simpa [Field.part?, read, Except.toOption] using admits
    | ok b => simpa [Field.part?, read, Except.toOption] using admits
  | _ :: _ :: _ => simp [Field.part?]

end Field.Meets

namespace Fields

/-- The fields of a record, none of them read yet, ask for what the rules say. -/
inductive Asks (origin : Origin) : {α : Type} → Fields α → List Rule → Prop
  | done {α : Type} (a : α) : Asks origin (.done a) []
  | and {α β : Type} {before : Fields (β → α)} {field : Field β} {rules : List Rule} {rule : Rule}
      (inner : Asks origin before rules) (meets : field.Meets origin rule) :
      Asks origin (before.and field) (rules ++ [rule])

namespace Asks

variable {fields : Fields α} {rules : List Rule} {a : α}

theorem names_eq (asks : fields.Asks origin rules) :
    fields.names = (rules.map Rule.name).reverse := by
  induction asks with
  | done a => rfl
  | and inner meets induction => simp [Fields.and, names, induction, meets.name]

/-- A record can be assembled exactly if every rule holds. -/
theorem assembled (asks : fields.Asks origin rules) (members : Members) :
    (fields.assembled? origin members).isSome ↔ Fit rules members := by
  induction asks with
  | done a => simp [assembled?, Fit]
  | @and α β before field rules rule inner meets induction =>
    have part := meets.part members
    simp only [Fit, List.forall_mem_append, List.forall_mem_singleton] at induction ⊢
    rw [← induction, ← part, assembled?_and]
    cases before.assembled? origin members <;>
      cases field.part? origin none (given field.name members) <;> simp

theorem takeElements_and {before : Fields (β → α)} {field : Field β} {expected : String}
    {elements left : List (Item Outline)} {n : Nat} :
    (before.and field).takeElements origin expected elements (.ok .start) = .ok (a, left, n) ↔
      ∃ f rest m, before.takeElements origin expected elements (.ok .start) = .ok (f, rest, m) ∧
        n = m + 1 ∧ ∃ b, a = f b ∧
          ((∃ element, rest = element :: left ∧ field.decode origin element.value = .ok b) ∨
            (rest = [] ∧ left = [] ∧ field.short = some b)) := by
  rw [Fields.and, takeElements]
  cases before.takeElements origin expected elements (.ok .start) with
  | error error => simp [bind, Except.bind]
  | ok taken =>
    obtain ⟨f, rest, m⟩ := taken
    cases rest with
    | nil =>
      cases field.short with
      | none => simp [bind, Except.bind, Decoder.failAt]
      | some b => simp [bind, Except.bind, eq_comm, and_assoc, and_comm, and_left_comm]
    | cons element rest =>
      cases read : field.decode origin element.value with
      | error error => simp [bind, Except.bind, read, Decoder.settle, Except.mapError]
      | ok b =>
        simp [bind, Except.bind, read, Decoder.settle, Except.mapError, eq_comm, and_comm,
          and_left_comm]

/-- The elements of a list are read as if they had the names of the rules. -/
theorem takeElements_eq_ok_iff (asks : fields.Asks origin rules)
    (distinct : (rules.map Rule.name).Nodup) (expected : String) (items : List Json)
    (left : List (Item Outline)) (n : Nat) :
    fields.takeElements origin expected (outlineItems items) (.ok .start) = .ok (a, left, n) ↔
      left = outlineItems (items.drop rules.length) ∧ n = rules.length ∧
        (∀ rule ∈ rules.drop items.length, rule.presence = .spare) ∧
          fields.assembled? origin ((rules.map Rule.name).zip items) = some a := by
  induction asks generalizing left n with
  | done b =>
    simp [takeElements, assembled?, eq_comm (a := left), eq_comm (a := n), and_assoc, and_comm]
  | @and α β before field rules rule inner meets induction =>
    rw [List.map_append, List.nodup_append] at distinct
    obtain ⟨distinct, -, new⟩ := distinct
    have unnamed : field.name ∉ rules.map Rule.name := fun member =>
      new _ member rule.name (by simp) meets.name
    have alone := given_eq_nil (not_mem_zip unnamed items)
    have taken := fun f rest m => @induction f distinct rest m
    have size : (rules.map Rule.name).length = rules.length := List.length_map _
    simp only [takeElements_and, taken, assembled?_and, List.map_append, List.map_singleton,
      List.length_append, List.length_singleton]
    cases ends : items.drop rules.length with
    | nil =>
      -- the list has ended before this field
      have short : items.length ≤ rules.length := List.drop_eq_nil_iff.mp ends
      have ended : items.drop (rules.length + 1) = [] := List.drop_eq_nil_iff.mpr (by omega)
      rw [zip_snoc_nil (by rwa [size]), alone, ended, List.drop_append_of_le_length short]
      simp only [List.forall_mem_append, List.forall_mem_singleton]
      constructor
      · rintro ⟨f, _, _, ⟨rfl, rfl, spare, whole⟩, rfl, b, rfl, ⟨_, next, _⟩ | ⟨-, rfl, last⟩⟩
        · cases next
        · obtain ⟨mine, absent⟩ := meets.short_eq_some_iff.mp last
          refine ⟨rfl, rfl, ⟨spare, mine⟩, ?_⟩
          simp [whole, Field.part?, absent]
      · rintro ⟨rfl, rfl, ⟨spare, mine⟩, whole⟩
        obtain ⟨f, assembled, made⟩ := Option.bind_eq_some_iff.mp whole
        obtain ⟨b, absent, rfl⟩ := Option.map_eq_some_iff.mp made
        exact ⟨f, _, _, ⟨rfl, rfl, spare, assembled⟩, rfl, b, rfl,
          .inr ⟨rfl, rfl, meets.short_eq_some_iff.mpr ⟨mine, absent⟩⟩⟩
    | cons item rest =>
      -- the list has an element for this field
      have long : rules.length + 1 ≤ items.length := by
        have := congrArg List.length ends
        simp only [List.length_drop, List.length_cons] at this
        omega
      have ended : items.drop (rules.length + 1) = rest := by
        rw [← List.drop_drop, ends, List.drop_one, List.tail_cons]
      have past : (rules ++ [rule]).drop items.length = [] :=
        List.drop_eq_nil_iff.mpr (by simpa using long)
      have none : rules.drop items.length = [] := List.drop_eq_nil_iff.mpr (by omega)
      have elsewhere : ∀ name ∈ before.names,
          given name ((rules.map Rule.name).zip items ++ [(rule.name, item)]) =
            given name ((rules.map Rule.name).zip items) := by
        intro name known
        rw [inner.names_eq, List.mem_reverse] at known
        have other : rule.name ≠ name := (new _ known _ (by simp)).symm
        rw [given_append, given_cons_other other, given_nil, List.append_nil]
      have here : given rule.name [(rule.name, item)] = [item] := given_cons_same _ _ _
      rw [zip_snoc_cons (by rwa [size]), ended, past, none, assembled?_congr elsewhere, meets.name,
        given_append, here, ← meets.name, alone, List.nil_append]
      constructor
      · rintro ⟨f, _, _, ⟨rfl, rfl, -, whole⟩, rfl, b, rfl, ⟨element, next, read⟩ | ⟨last, -⟩⟩
        · obtain ⟨rfl, rfl⟩ := List.cons.inj next
          refine ⟨rfl, rfl, by simp, ?_⟩
          simp [whole, Field.part?, read, Except.toOption]
        · cases last
      · rintro ⟨rfl, rfl, -, whole⟩
        obtain ⟨f, assembled, made⟩ := Option.bind_eq_some_iff.mp whole
        obtain ⟨b, part, rfl⟩ := Option.map_eq_some_iff.mp made
        cases read : field.decode origin (outline item) with
        | error error => simp [Field.part?, read, Except.toOption] at part
        | ok found =>
          simp only [Field.part?, read, Except.toOption, Option.some.injEq] at part
          subst part
          exact ⟨f, _, _, ⟨rfl, rfl, by simp, assembled⟩, rfl, found, rfl, .inl ⟨_, rfl, read⟩⟩

/-- Only a list no longer than the rules is read to its end. -/
theorem readElements_eq_ok_iff (asks : fields.Asks origin rules)
    (distinct : (rules.map Rule.name).Nodup) (complete : origin ≠ .text) (name : String)
    (items : List Json) :
    fields.readElements origin name (outlineItems items) (.ok .start) = .ok a ↔
      items.length ≤ rules.length ∧ (∀ rule ∈ rules.drop items.length, rule.presence = .spare) ∧
        fields.assembled? origin ((rules.map Rule.name).zip items) = some a := by
  have ends : ∀ rest : List Json, (outlineItems rest).isEmpty = rest.isEmpty := by
    rintro (_ | _) <;> rfl
  have taken := fun b left n => takeElements_eq_ok_iff (a := b) asks distinct
    (s!"{name} with {elementCount fields.count}") items left n
  unfold readElements
  dsimp only
  generalize s!"{name} with {elementCount fields.count}" = expected at taken ⊢
  cases read : fields.takeElements origin expected (outlineItems items) (.ok .start) with
  | error error =>
    refine iff_of_false (by simp [bind, Except.bind]) ?_
    rintro ⟨-, spare, whole⟩
    have found := (taken a _ _).mpr ⟨rfl, rfl, spare, whole⟩
    rw [read] at found
    cases found
  | ok found =>
    obtain ⟨b, left, n⟩ := found
    obtain ⟨rfl, rfl, spare, whole⟩ := (taken b left n).mp read
    rw [whole]
    cases origin with
    | text => exact absurd rfl complete
    | value | held =>
      by_cases short : items.length ≤ rules.length
      · simpa [bind, Except.bind, ends, short] using fun _ => spare
      · simp [bind, Except.bind, ends, short, Decoder.fail]

/-- A record is read as its members are, which it gives by name or as a list. -/
theorem record_eq_ok_iff (asks : fields.Asks origin rules)
    (distinct : (rules.map Rule.name).Nodup) (complete : origin ≠ .text) (strangers : Strangers)
    (name : String) (value : Json) :
    Decoder.recordWith strangers name fields origin (outline value) = .ok a ↔
      ∃ members, Lays rules value members ∧
        (strangers = .refused → ∀ member ∈ members, member.1 ∈ rules.map Rule.name) ∧
          fields.assembled? origin members = some a := by
  have named : fields.names.Nodup := by
    rwa [asks.names_eq, (List.reverse_perm _).nodup_iff]
  cases value with
  | obj members =>
    have read : fields.readMembers origin strangers (outlineMembers members) (.ok .start) = .ok a ↔
        _ := readMembers_eq_ok_iff named strangers
    simp only [asks.names_eq, List.mem_reverse] at read
    refine read.trans ⟨fun given => ⟨members, .named members, given⟩, ?_⟩
    rintro ⟨_, ⟨⟩, given⟩
    exact given
  | arr items =>
    have read := asks.readElements_eq_ok_iff (a := a) distinct complete name items
    refine read.trans ⟨fun ⟨short, spare, whole⟩ => ?_, ?_⟩
    · refine ⟨_, .listed items short spare, fun _ member inside => ?_, whole⟩
      exact (List.of_mem_zip inside).1
    · rintro ⟨_, ⟨⟩ | ⟨_, short, spare⟩, -, whole⟩
      exact ⟨short, spare, whole⟩
  | null | bool | num | str =>
    refine iff_of_false ?_ ?_
    · simp [Decoder.recordWith, outline, Decoder.unexpected_ne_ok]
    · rintro ⟨_, ⟨⟩, -⟩

/-- A record that passes over members it does not know. -/
theorem record_admits (asks : fields.Asks origin rules)
    (distinct : (rules.map Rule.name).Nodup) (complete : origin ≠ .text) (name : String) :
    (Decoder.record name fields).Admits origin (IsRecord rules) := by
  intro value
  have read := fun a => asks.record_eq_ok_iff (a := a) distinct complete .passed name value
  simp only [Decoder.record, read, reduceCtorEq, false_implies, true_and]
  constructor
  · rintro ⟨a, members, lays, whole⟩
    exact ⟨members, lays, (asks.assembled members).mp (Option.isSome_iff_exists.mpr ⟨a, whole⟩)⟩
  · rintro ⟨members, lays, fit⟩
    obtain ⟨a, whole⟩ := Option.isSome_iff_exists.mp ((asks.assembled members).mpr fit)
    exact ⟨a, members, lays, whole⟩

end Asks

end Fields

end BrowserScript.Json

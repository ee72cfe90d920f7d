import BrowserScript.Proofs.Json.Rewriting

/-!
# Reading a rewritten document

A decoder carries a rewriting of texts over to its values when the rewritten document reads as the
rewritten value. Where one of several readings is chosen by trying them in turn, a reading that
fails has to fail after the rewriting too, so two results are compared in two strengths (`Agree`).
The parts of a record are compared by a relation, as what has been read of a record so far is a
function of what is missing. Main definitions: `Agree`, `Decoder.Relates`,
`Decoder.Carries`. Main results: `Decoder.Carries.firstOf`, `Decoder.Carries.variant`,
`Decoder.Relates.recordWith`.
-/

set_option autoImplicit false

namespace BrowserScript.Json

universe u v u' v'

/-- The second result is related to the first if that one is a value. If they agree exactly, the
second is an error if the first is. -/
inductive Agree {α : Type u} {β : Type v} (exact : Prop) (R : α → β → Prop) :
    Except ReadError α → Except ReadError β → Prop
  | ok {a : α} {b : β} (related : R a b) : Agree exact R (.ok a) (.ok b)
  | error (first second : ReadError) : Agree exact R (.error first) (.error second)
  | gained (error : ReadError) (b : β) (loose : ¬ exact) : Agree exact R (.error error) (.ok b)

namespace Agree

variable {α : Type u} {β : Type v} {γ : Type u} {δ : Type v} {exact : Prop} {R : α → β → Prop}
  {S : γ → δ → Prop} {x : Except ReadError α} {y : Except ReadError β}

/-- Where a reading may be gained, an error agrees with everything. -/
theorem of_loose (loose : ¬ exact) (error : ReadError) (y : Except ReadError β) :
    Agree exact R (.error error) y := by
  cases y with
  | error other => exact .error error other
  | ok b => exact .gained error b loose

theorem bind {f : α → Except ReadError γ} {g : β → Except ReadError δ} (first : Agree exact R x y)
    (next : ∀ a b, R a b → Agree exact S (f a) (g b)) : Agree exact S (x >>= f) (y >>= g) := by
  cases first with
  | ok related => exact next _ _ related
  | error first second => exact .error first second
  | gained error b loose => exact of_loose loose error (g b)

theorem mapError {f g : ReadError → ReadError} (results : Agree exact R x y) :
    Agree exact R (x.mapError f) (y.mapError g) := by
  cases results with
  | ok related => exact .ok related
  | error first second => exact .error (f first) (g second)
  | gained error b loose => exact .gained (f error) b loose

theorem value {a : α} (results : Agree exact R (.ok a) y) : ∃ b, y = .ok b ∧ R a b := by
  cases results with
  | ok related => exact ⟨_, rfl, related⟩

/-- Where nothing changes, all that is related to itself agrees. -/
theorem same {R : α → α → Prop} (related : ∀ a, R a a) (x : Except ReadError α) :
    Agree exact R x x := by
  cases x with
  | error error => exact .error error error
  | ok a => exact .ok (related a)

end Agree

variable {α β : Type} {exact : Prop} {f : String → String}

namespace Decoder

/-- What is read of a rewritten document is related to what is read of the document itself. -/
def Relates (exact : Prop) (f : String → String) (R : α → α → Prop) (d : Decoder α) : Prop :=
  ∀ origin o, Agree exact R (d origin o) (d origin (o.mapText f))

/-- The rewritten document reads as the rewritten value. -/
abbrev Carries (exact : Prop) (f : String → String) (m : α → α) (d : Decoder α) : Prop :=
  d.Relates exact f fun a b => b = m a

/-- A rewriting that changes nothing relates what is read to itself. -/
theorem Relates.unchanged {R : α → α → Prop} {d : Decoder α}
    (related : ∀ origin o a, d origin o = .ok a → R a a) : d.Relates exact id R := by
  intro origin o
  rw [Outline.mapText_id]
  cases read : d origin o with
  | error error => exact .error error error
  | ok a => exact .ok (related origin o a read)

namespace Carries

theorem string : Carries exact f f Decoder.string := by
  intro origin o
  cases o with
  | str s after => exact .ok rfl
  | _ => exact .error _ _

theorem bool : Carries exact f id Decoder.bool := by
  intro origin o
  cases o with
  | bool b after => exact .ok rfl
  | _ => exact .error _ _

theorem natural (expected : String) (bound : Nat) :
    Carries exact f id (Decoder.natural expected bound) := by
  intro origin o
  cases o with
  | num n after => exact Agree.same (R := fun a b => b = id a) (fun _ => rfl) _
  | _ => exact .error _ _

theorem float : Carries exact f id Decoder.float := by
  intro origin o
  cases o with
  | num n after => exact .ok rfl
  | _ => exact .error _ _

theorem map {m : α → α} {n : β → β} {d : Decoder α} (inner : d.Carries exact f m) (g : α → β)
    (commutes : ∀ a, g (m a) = n (g a)) : (d.map g).Carries exact f n := by
  intro origin o
  have step := inner origin o
  unfold Decoder.map
  generalize d origin o = x at step
  generalize d origin (o.mapText f) = y at step
  cases step with
  | ok related => exact .ok (related ▸ commutes _)
  | error first second => exact .error first second
  | gained error b loose => exact .gained error (g b) loose

theorem uint32 : Carries exact f id Decoder.uint32 := (natural _ _).map _ fun _ => rfl

theorem uint64 : Carries exact f id Decoder.uint64 := (natural _ _).map _ fun _ => rfl

theorem optional {m : α → α} {d : Decoder α} (inner : d.Carries exact f m) :
    (Decoder.optional d).Carries exact f (Option.map m) := by
  intro origin o
  have some := inner.map (n := Option.map m) Option.some fun _ => rfl
  cases o with
  | null after => exact .ok rfl
  | _ => exact some origin _

theorem andThen {m : α → α} {n : β → β} {d : Decoder α} {check : α → Except Mismatch β}
    (inner : d.Carries exact f m) (checked : ∀ a, check (m a) = (check a).map n) :
    (Decoder.andThen d check).Carries exact f n := by
  intro origin o
  have step := inner origin o
  unfold Decoder.andThen
  generalize d origin o = x at step
  generalize d origin (o.mapText f) = y at step
  cases step with
  | @ok a b related =>
    subst related
    dsimp only
    rw [checked a]
    cases check a with
    | error mismatch => exact .error _ _
    | ok b => exact .ok rfl
  | error first second => exact .error first second
  | gained error b loose => exact Agree.of_loose loose error _

theorem items {m : α → α} {d : Decoder α} (inner : d.Carries exact f m) (origin : Origin)
    (elements : List (Item Outline)) (stop : Except Flaw Place) :
    Agree exact (fun as bs => bs = as.map m) (Decoder.items d origin elements stop)
      (Decoder.items d origin (Outline.mapItems f elements) stop) := by
  induction elements with
  | nil =>
    cases stop with
    | error flaw => exact .error _ _
    | ok place => exact .ok rfl
  | cons element rest induction =>
    have first := (inner origin element.value).mapError
      (f := ReadError.settledAt element.settled) (g := ReadError.settledAt element.settled)
    refine first.bind fun a b here => induction.bind fun as bs later => .ok ?_
    rw [here, later, List.map_cons]

theorem list {m : α → α} {d : Decoder α} (inner : d.Carries exact f m) :
    (Decoder.list d).Carries exact f (List.map m) := by
  intro origin o
  cases o with
  | arr before elements stop => exact items inner origin elements stop
  | _ => exact .error _ _

end Carries

/-! ## Readings tried in turn -/

mutual

/-- A value that can be read can be read after a rewriting, and the other way round. -/
theorem json_agree (o : Outline) :
    Agree exact (fun _ _ => True) (json o) (json (o.mapText f)) := by
  cases o with
  | null | bool | num | str => exact .ok trivial
  | unreadable lead flaw passing => exact .error _ _
  | arr before items stop =>
    exact (jsonItems_agree items stop).bind fun _ _ _ => .ok trivial
  | obj before members stop =>
    exact (jsonMembers_agree members stop).bind fun _ _ _ => .ok trivial

theorem jsonItems_agree (items : List (Item Outline)) (stop : Except Flaw Place) :
    Agree exact (fun _ _ => True) (jsonItems items stop)
      (jsonItems (Outline.mapItems f items) stop) := by
  cases items with
  | nil =>
    cases stop with
    | error flaw => exact .error _ _
    | ok place => exact .ok trivial
  | cons item rest =>
    obtain ⟨value, settled, closing⟩ := item
    exact (json_agree value).bind fun _ _ _ =>
      (jsonItems_agree rest stop).bind fun _ _ _ => .ok trivial

theorem jsonMembers_agree (members : List (Member Outline)) (stop : Except Flaw Place) :
    Agree exact (fun _ _ => True) (jsonMembers members stop)
      (jsonMembers (Outline.mapMembers f members) stop) := by
  cases members with
  | nil =>
    cases stop with
    | error flaw => exact .error _ _
    | ok place => exact .ok trivial
  | cons member rest =>
    obtain ⟨key, keyed, value, settled, closing⟩ := member
    cases key with
    | unreadable flaw => exact .error _ _
    | name key =>
      exact (json_agree value).bind fun _ _ _ =>
        (jsonMembers_agree rest stop).bind fun _ _ _ => .ok trivial

end

namespace Carries

theorem hold {m : α → α} {d : Decoder α} (inner : d.Carries exact f m) :
    (Decoder.hold d).Carries exact f m := fun _ o =>
  (json_agree o).bind fun _ _ _ => (inner .held o).mapError

/-- The same reading is chosen, since those before it still fail. -/
theorem firstOf {m : α → α} (name : String) {choices : List (Decoder α)}
    (inner : ∀ d ∈ choices, d.Carries True f m) :
    (Decoder.firstOf name choices).Carries exact f m := by
  refine hold fun origin o => ?_
  have found : (choices.findSome? fun d => (d origin (o.mapText f)).toOption) =
      (choices.findSome? fun d => (d origin o).toOption).map m := by
    induction choices with
    | nil => rfl
    | cons d rest induction =>
      have later := induction fun other member => inner other (.tail _ member)
      have step := inner d (.head _) origin o
      simp only [List.findSome?_cons]
      generalize d origin o = x at step
      generalize d origin (o.mapText f) = y at step
      cases step with
      | ok related => exact congrArg some related
      | error first second => exact later
      | gained error b loose => exact absurd trivial loose
  rw [found]
  cases choices.findSome? fun d => (d origin o).toOption with
  | none => exact .error _ _
  | some a => exact .ok rfl

theorem firstOf_pair {m : α → α} (name : String) {first second : Decoder α}
    (one : first.Carries True f m) (other : second.Carries True f m) :
    (Decoder.firstOf name [first, second]).Carries exact f m := by
  refine firstOf name fun d member => ?_
  rcases List.mem_cons.mp member with rfl | member
  · exact one
  · rw [List.mem_singleton.mp member]
    exact other

/-! ## Variants -/

theorem unit_agree (origin : Origin) (o : Outline) :
    Agree exact (fun _ _ => True) (Decoder.unit origin o) (Decoder.unit origin (o.mapText f)) := by
  cases o with
  | null after => exact .ok trivial
  | obj before members stop =>
    cases members with
    | nil =>
      cases origin with
      | held =>
        cases stop with
        | error flaw => exact .error _ _
        | ok place => exact .ok trivial
      | text | value => cases stop <;> exact .error _ _
    | cons member rest => cases origin <;> exact .error _ _
  | _ => cases origin <;> exact .error _ _

theorem variantNamed_agree {variants : List (String × α)} (known : List String)
    (fixed : ∀ entry ∈ variants, f entry.1 = entry.1) (name : String) :
    Agree False (fun a b => b = id a) (variantNamed variants known name)
      (variantNamed variants known (f name)) := by
  unfold variantNamed
  cases found : variants.lookup name with
  | none => exact Agree.of_loose not_false _ _
  | some a =>
    have member := (List.lookup_eq_some_iff.mp found)
    obtain ⟨before, after, split, _⟩ := member
    have same : f name = name := fixed (name, a) (by rw [split]; simp)
    rw [same, found]
    exact .ok rfl

/-- A name that is kept still names its variant. Another name may come to name one. -/
theorem variant {variants : List (String × α)} (known : List String)
    (fixed : ∀ entry ∈ variants, f entry.1 = entry.1) :
    (Decoder.variant variants known).Carries False f id := by
  intro origin o
  have named : ∀ name, Agree False (fun a b => b = id a) (variantNamed variants known name)
      (variantNamed variants known name) := fun name =>
    Agree.same (R := fun a b => b = id a) (fun _ => rfl) _
  cases o with
  | str s after => exact (variantNamed_agree known fixed s).mapError
  | obj before members stop =>
    cases origin with
    | text =>
      cases members with
      | nil => cases stop <;> exact Agree.of_loose not_false _ _
      | cons member rest =>
        obtain ⟨key, keyed, value, settled, closing⟩ := member
        cases key with
        | unreadable flaw => exact Agree.of_loose not_false _ _
        | name name =>
          refine (named name).mapError.bind fun a b same => ?_
          refine (unit_agree .text value).bind fun _ _ _ => ?_
          cases closing with
          | none => exact .ok same
          | some flaw => exact .error _ _
    | value | held =>
      cases members with
      | nil => cases stop <;> exact Agree.of_loose not_false _ _
      | cons member rest =>
        obtain ⟨key, keyed, value, settled, closing⟩ := member
        cases key with
        | unreadable flaw => exact Agree.of_loose not_false _ _
        | name name =>
          cases rest with
          | cons other rest => exact Agree.of_loose not_false _ _
          | nil =>
            cases stop with
            | error flaw => exact Agree.of_loose not_false _ _
            | ok place =>
              exact (named name).bind fun a b same =>
                (unit_agree _ value).bind fun _ _ _ => .ok same
  | unreadable lead flaw passing =>
    cases origin <;> cases lead <;> exact Agree.of_loose not_false _ _
  | _ => cases origin <;> exact Agree.of_loose not_false _ _

end Carries

end Decoder

/-! ## Records -/

namespace Fields

/-- What has been read of a record, beside what has been read of the rewritten record. -/
inductive Relates (exact : Prop) (f : String → String) :
    {α : Type} → (α → α → Prop) → Fields α → Fields α → Prop
  | done {α : Type} {R : α → α → Prop} {a b : α} (related : R a b) :
      Relates exact f R (.done a) (.done b)
  | more {α β : Type} {R : α → α → Prop} {Q : β → β → Prop} {first second : Fields (β → α)}
      {field : Field β} {held other : Option β} (taken : Option.Rel Q held other)
      (before : Relates exact f (fun g h => ∀ b c, Q b c → R (g b) (h c)) first second)
      (decode : field.decode.Relates exact f Q) (absent : Option.Rel Q field.absent field.absent)
      (short : Option.Rel Q field.short field.short) :
      Relates exact f R (.more first field held) (.more second field other)

namespace Relates

variable {R : α → α → Prop} {first second : Fields α}

section

variable {Q : β → β → Prop} {first second : Fields (β → α)} {name : String} {d : Decoder β}

theorem required (before : Relates exact f (fun g h => ∀ b c, Q b c → R (g b) (h c)) first second)
    (decode : d.Relates exact f Q) :
    Relates exact f R (first.and (.required name d)) (second.and (.required name d)) :=
  .more .none before decode .none .none

theorem orDefault {value : β}
    (before : Relates exact f (fun g h => ∀ b c, Q b c → R (g b) (h c)) first second)
    (decode : d.Relates exact f Q) (kept : Q value value) :
    Relates exact f R (first.and (.orDefault name d value))
      (second.and (.orDefault name d value)) :=
  .more .none before decode (.some kept) (.some kept)

end

theorem optional {m : β → β} {first second : Fields (Option β → α)} {name : String}
    {d : Decoder β}
    (before : Relates exact f (fun g h => ∀ b c, c = b.map m → R (g b) (h c)) first second)
    (decode : d.Carries exact f m) :
    Relates exact f R (first.and (.optional name d)) (second.and (.optional name d)) :=
  .more .none before decode.optional (.some rfl) .none

theorem count (fields : Relates exact f R first second) : second.count = first.count := by
  induction fields with
  | done => rfl
  | more taken before decode absent short induction => exact congrArg (· + 1) induction

theorem offer (fields : Relates exact f R first second) (origin : Origin) (key : String)
    (member : Member Outline) :
    Agree exact (Option.Rel (Relates exact f R)) (first.offer origin key member)
      (second.offer origin key { member with value := member.value.mapText f }) := by
  induction fields with
  | done => exact .ok .none
  | @more _ _ R Q first second field held other taken before decode absent short induction =>
    simp only [Fields.offer]
    split
    · cases taken with
      | some => exact .error _ _
      | none =>
        have reading := (decode origin member.value).mapError
          (f := ReadError.settledAt member.settled) (g := ReadError.settledAt member.settled)
        unfold Decoder.settle
        generalize (field.decode origin member.value).mapError _ = x at reading ⊢
        generalize (field.decode origin (member.value.mapText f)).mapError _ = y at reading ⊢
        cases reading with
        | ok related => exact .ok (.some (.more (.some related) before decode absent short))
        | error first second => exact .error first second
        | gained error b loose => exact .gained error _ loose
    · generalize Fields.offer origin key member first = x at induction ⊢
      generalize Fields.offer origin key _ second = y at induction ⊢
      cases induction with
      | ok same =>
        cases same with
        | none => exact .ok .none
        | some same => exact .ok (.some (.more taken same decode absent short))
      | error first second => exact .error first second
      | gained error b loose => exact Agree.of_loose loose error _

theorem collect (fields : Relates exact f R first second) :
    Agree exact R first.collect second.collect := by
  induction fields with
  | done related => exact .ok related
  | @more _ _ R Q first second field held other taken before decode absent short induction =>
    refine induction.bind fun g h related => ?_
    have given : Option.Rel Q (held.or field.absent) (other.or field.absent) := by
      cases taken with
      | some same => exact .some same
      | none => exact absent
    generalize held.or field.absent = x at given
    generalize other.or field.absent = y at given
    cases given with
    | none => exact .error _ _
    | some same => exact .ok (related _ _ same)

theorem readMembers (fields : Relates exact f R first second) (origin : Origin)
    (strangers : Strangers) (members : List (Member Outline)) (stop : Except Flaw Place) :
    Agree exact R (first.readMembers origin strangers members stop)
      (second.readMembers origin strangers (Outline.mapMembers f members) stop) := by
  induction members generalizing first second with
  | nil =>
    cases stop with
    | error flaw => exact .error _ _
    | ok place => exact fields.collect.mapError
  | cons member rest induction =>
    obtain ⟨key, keyed, value, settled, closing⟩ := member
    cases key with
    | unreadable flaw => exact .error _ _
    | name key =>
      have offered := fields.offer origin key ⟨.name key, keyed, value, settled, closing⟩
      simp only [Outline.mapMembers, Fields.readMembers, Outline.passing_mapText]
      generalize Fields.offer origin key _ first = x at offered ⊢
      generalize Fields.offer origin key _ second = y at offered ⊢
      cases offered with
      | error first second => exact .error first second
      | gained error b loose => exact Agree.of_loose loose error _
      | ok same =>
        cases same with
        | some same => exact induction same
        | none =>
          cases strangers with
          | refused => exact .error _ _
          | passed =>
            cases value.passing with
            | some flaw => exact .error _ _
            | none => exact induction fields

theorem takeElements (fields : Relates exact f R first second) (origin : Origin)
    (expected : String) (elements : List (Item Outline)) (stop : Except Flaw Place) :
    Agree exact (fun x y => R x.1 y.1 ∧ y.2 = (Outline.mapItems f x.2.1, x.2.2))
      (first.takeElements origin expected elements stop)
      (second.takeElements origin expected (Outline.mapItems f elements) stop) := by
  induction fields with
  | done related => exact .ok ⟨related, rfl⟩
  | @more _ _ R Q first second field held other taken before decode absent short induction =>
    refine induction.bind fun x y same => ?_
    obtain ⟨g, left, n⟩ := x
    obtain ⟨h, left', n'⟩ := y
    obtain ⟨related, same⟩ := same
    cases same
    cases left with
    | cons element rest =>
      exact (decode origin element.value).mapError.bind fun a b same =>
        .ok ⟨related a b same, rfl⟩
    | nil =>
      cases stop with
      | error flaw => exact .error _ _
      | ok place =>
        dsimp only [Outline.mapItems]
        generalize field.short = given at short
        cases short with
        | none => exact .error _ _
        | some same => exact .ok ⟨related _ _ same, rfl⟩

theorem readElements (fields : Relates exact f R first second) (origin : Origin) (name : String)
    (elements : List (Item Outline)) (stop : Except Flaw Place) :
    Agree exact R (first.readElements origin name elements stop)
      (second.readElements origin name (Outline.mapItems f elements) stop) := by
  have taken := fields.takeElements origin s!"{name} with {elementCount first.count}" elements stop
  unfold Fields.readElements
  rw [fields.count]
  refine taken.bind fun x y same => ?_
  obtain ⟨a, left, n⟩ := x
  obtain ⟨b, left', n'⟩ := y
  obtain ⟨related, same⟩ := same
  cases same
  have ended : (Outline.mapItems f left).isEmpty = left.isEmpty := by
    cases left <;> rfl
  dsimp only
  rw [Outline.closingFlaw_mapItems, ended]
  cases origin with
  | text =>
    cases closingFlaw elements left with
    | none => exact .ok related
    | some flaw => exact .error _ _
  | value | held =>
    cases left.isEmpty with
    | true => exact .ok related
    | false => exact .error _ _

end Relates

end Fields

theorem Decoder.Relates.recordWith {R : α → α → Prop} {fields : Fields α}
    (strangers : Fields.Strangers) (name : String) (inner : fields.Relates exact f R fields) :
    (Decoder.recordWith strangers name fields).Relates exact f R := by
  intro origin o
  cases o with
  | arr before elements stop => exact inner.readElements origin name elements stop
  | obj before members stop => exact inner.readMembers origin strangers members stop
  | _ => exact .error _ _

namespace Decoder.Carries

/-- A value that can be read can be read after a rewriting, as the rewritten result. -/
theorem readValue {m : α → α} {d : Decoder α} (inner : d.Carries exact f m) {value : Json} {a : α}
    (read : d.readValue value = .ok a) : d.readValue (value.mapText f) = .ok (m a) := by
  have results := (inner .value value.outline).mapError
    (f := ReadError.unplaced) (g := ReadError.unplaced)
  unfold Decoder.readValue Decoder.unplaced at read ⊢
  rw [outline_mapText]
  rw [read] at results
  obtain ⟨b, found, same⟩ := results.value
  rw [found, same]

theorem readValue_map {m : α → α} {n : β → β} {d : Decoder α} (inner : d.Carries exact f m)
    (g : α → β) (commutes : ∀ a, g (m a) = n (g a)) {value : Json} {b : β}
    (read : (d.readValue value).map g = .ok b) :
    (d.readValue (value.mapText f)).map g = .ok (n b) := by
  cases found : d.readValue value with
  | error error =>
    rw [found] at read
    cases read
  | ok a =>
    rw [found] at read
    cases read
    rw [inner.readValue found]
    exact congrArg Except.ok (commutes a)

end Decoder.Carries

end BrowserScript.Json

import BrowserScript.Proofs.Json.Showing
import Mathlib.Data.List.Perm.Basic

/-!
# Decoders that give values back

A decoder reads a value back from its JSON form when every document of that form reads as the value,
whatever the order of the members. A record is read back when every one of its fields is, since each
member is handed to the field of its name. Main definitions: `Decoder.Reads`, `Fields.Expects`. Main
results: `Fields.Expects.readMembers`, `Decoder.Reads.record`, `Decoder.Reads.tagged`.
-/

set_option autoImplicit false

namespace BrowserScript

/-! ## The order of members -/

namespace Members

theorem insert_perm {key : String} {value : Json} {members : Members}
    (fresh : key ∉ members.map Prod.fst) :
    (insert key value members).Perm ((key, value) :: members) := by
  induction members with
  | nil => exact .refl _
  | cons member rest induction =>
    obtain ⟨k, v⟩ := member
    simp only [List.map_cons, List.mem_cons, not_or] at fresh
    unfold insert
    rw [if_neg fresh.1]
    split
    · exact .refl _
    · exact ((induction fresh.2).cons _).trans (.swap _ _ _)

theorem insertAll_perm {pairs : List (String × Json)} {members : Members}
    (single : ((pairs ++ members).map Prod.fst).Nodup) :
    (pairs.foldl (fun members pair => insert pair.1 pair.2 members) members).Perm
      (pairs ++ members) := by
  induction pairs generalizing members with
  | nil => exact .refl _
  | cons pair rest induction =>
    obtain ⟨fresh, others⟩ := List.nodup_cons.mp single
    have inserted : (insert pair.1 pair.2 members).Perm (pair :: members) := by
      apply insert_perm
      intro old
      have among : pair.1 ∈ (rest ++ members).map Prod.fst := by
        rw [List.map_append]
        exact List.mem_append_right _ old
      exact fresh among
    have moved : (rest ++ insert pair.1 pair.2 members).Perm (pair :: (rest ++ members)) :=
      (inserted.append_left rest).trans List.perm_middle
    exact (induction ((moved.map Prod.fst).nodup_iff.mpr single)).trans moved

theorem ofList_perm {pairs : List (String × Json)} (single : (pairs.map Prod.fst).Nodup) :
    (ofList pairs).Perm pairs := by
  have alone : ((pairs ++ []).map Prod.fst).Nodup := by rwa [List.append_nil]
  simpa [ofList] using insertAll_perm alone

end Members

namespace Json

variable {α β : Type}

/-- Every document that displays the value reads as `a`. -/
def Decoder.Reads (d : Decoder α) (value : Json) (a : α) : Prop :=
  ∀ origin o, Displays value o → d origin o = .ok a

namespace Decoder.Reads

theorem string (s : String) : Decoder.string.Reads (.str s) s := by
  intro origin o displayed
  obtain ⟨after, rfl⟩ := displayed.str
  rfl

theorem bool (b : Bool) : Decoder.bool.Reads (.bool b) b := by
  intro origin o displayed
  obtain ⟨after, rfl⟩ := displayed.bool
  rfl

theorem natural (expected : String) {bound : Nat} {n : UInt64} (small : n.toNat < bound) :
    (Decoder.natural expected bound).Reads (.num (.natural n)) n.toNat := by
  intro origin o displayed
  obtain ⟨after, rfl⟩ := displayed.num
  exact if_pos small

theorem map {d : Decoder α} {value : Json} {a : α} (inner : d.Reads value a) (f : α → β) :
    (d.map f).Reads value (f a) := by
  intro origin o displayed
  rw [Decoder.map, inner origin o displayed]
  rfl

theorem word (expected : String) (n : UInt64) :
    ((Decoder.natural expected UInt64.size).map Nat.toUInt64).Reads (.ofNat n.toNat) n := by
  have exact : n.toNat.toUInt64 = n := UInt64.ofNat_toNat
  have read := (natural expected (n := n) n.toNat_lt_size).map Nat.toUInt64
  rw [exact] at read
  rwa [Json.ofNat, Number.ofNat, exact]

theorem uint64 (n : UInt64) : Decoder.uint64.Reads (.ofNat n.toNat) n := word "u64" n

theorem index (n : UInt64) : Decoder.index.Reads (.ofNat n.toNat) n := word "usize" n

theorem optional {d : Decoder α} {encode : α → Json} (some : ∀ a, encode a ≠ .null)
    (inner : ∀ a, d.Reads (encode a) a) (given : Option α) :
    (Decoder.optional d).Reads (.ofOption encode given) given := by
  intro origin o displayed
  cases given with
  | none =>
    obtain ⟨after, rfl⟩ := displayed.null
    rfl
  | some a =>
    have read := inner a origin o displayed
    cases o with
    | null after => exact absurd displayed.of_null (some a)
    | bool | num | str | arr | obj | unreadable => exact congrArg (Except.map Option.some) read

theorem variant {variants : List (String × α)} {name : String} {a : α} (known : List String)
    (listed : variants.lookup name = some a) :
    (Decoder.variant variants known).Reads (.str name) a := by
  intro origin o displayed
  obtain ⟨after, rfl⟩ := displayed.str
  have named : variantNamed variants known name = .ok a := by
    rw [variantNamed, listed]
  cases origin <;> simp only [Decoder.variant, named] <;> rfl

end Decoder.Reads

/-! ## Records -/

namespace Fields

def names {α : Type} : Fields α → List String
  | done _ => []
  | more before field _ => field.name :: names before

/-- The members that are still to come complete the record to `a`: each field that has not been read
has its member among them. -/
inductive Expects (pairs : List (String × Json)) : {α : Type} → Fields α → α → Prop
  | done {α : Type} (a : α) : Expects pairs (.done a) a
  | held {α β : Type} {before : Fields (β → α)} {f : β → α} {field : Field β} {b : β}
      (inner : Expects pairs before f) (past : field.name ∉ pairs.map Prod.fst) :
      Expects pairs (.more before field (some b)) (f b)
  | wanted {α β : Type} {before : Fields (β → α)} {f : β → α} {field : Field β} {value : Json}
      {b : β} (inner : Expects pairs before f) (given : (field.name, value) ∈ pairs)
      (reads : field.decode.Reads value b) : Expects pairs (.more before field none) (f b)

namespace Expects

variable {pairs : List (String × Json)} {fields : Fields α} {a : α}

theorem collect (complete : Expects [] fields a) : fields.collect = .ok a := by
  induction complete with
  | done a => rfl
  | held inner past induction =>
    simp only [Fields.collect, induction]
    rfl
  | wanted inner given reads induction => cases given

theorem of_later {field : Field β} {key : String} {value content : Json}
    (given : (field.name, content) ∈ (key, value) :: pairs) (other : field.name ≠ key) :
    (field.name, content) ∈ pairs := by
  rcases List.mem_cons.mp given with same | later
  · cases same
    exact absurd rfl other
  · exact later

/-- A member that no field asks for changes nothing. -/
theorem skip {key : String} {value : Json} (expected : Expects ((key, value) :: pairs) fields a)
    (other : key ∉ fields.names) : Expects pairs fields a := by
  induction expected with
  | done a => exact .done a
  | held inner past induction =>
    simp only [names, List.mem_cons, not_or] at other
    exact .held (induction other.2) fun later => past (.tail _ later)
  | wanted inner given reads induction =>
    simp only [names, List.mem_cons, not_or] at other
    exact .wanted (induction other.2) (of_later given (Ne.symm other.1)) reads

/-- A member is handed to the field of its name. -/
theorem offer {key : String} {value : Json} (expected : Expects ((key, value) :: pairs) fields a)
    (distinct : fields.names.Nodup) (single : key ∉ pairs.map Prod.fst) (known : key ∈ fields.names)
    (origin : Origin) {member : Member Outline} (displayed : Displays value member.value) :
    ∃ next, fields.offer origin key member = .ok (some next) ∧ Expects pairs next a ∧
      next.names = fields.names := by
  induction expected with
  | done a => cases known
  | @held α β before f field b inner past induction =>
    have different : field.name ≠ key := fun same => past (same ▸ .head _)
    simp only [names, List.mem_cons, List.nodup_cons] at known distinct
    obtain ⟨next, passed, rest, same⟩ :=
      induction distinct.2 (known.resolve_left (Ne.symm different))
    refine ⟨.more next field (some b), ?_, .held rest fun later => past (.tail _ later),
      congrArg (field.name :: ·) same⟩
    simp only [Fields.offer, if_neg different, passed]
  | @wanted α β before f field content b inner given reads induction =>
    simp only [names, List.mem_cons, List.nodup_cons] at known distinct
    by_cases mine : field.name = key
    · subst mine
      have same : content = value := by
        rcases List.mem_cons.mp given with same | later
        · cases same
          rfl
        · exact absurd (List.mem_map_of_mem later) single
      subst same
      refine ⟨.more before field (some b), ?_, .held (inner.skip distinct.1) single, rfl⟩
      simp only [Fields.offer, if_true, reads origin _ displayed]
      rfl
    · obtain ⟨next, passed, rest, same⟩ :=
        induction distinct.2 (known.resolve_left (Ne.symm mine))
      refine ⟨.more next field none, ?_, .wanted rest (of_later given mine) reads,
        congrArg (field.name :: ·) same⟩
      simp only [Fields.offer, if_neg mine, passed]

/-- A record is read from its members, whatever their order. -/
theorem readMembers (expected : Expects pairs fields a) (distinct : fields.names.Nodup)
    (single : (pairs.map Prod.fst).Nodup) (known : ∀ key ∈ pairs.map Prod.fst, key ∈ fields.names)
    (origin : Origin) (strangers : Strangers) (place : Place) {shown : List (Member Outline)}
    (displayed : List.Forall₂ Member.Displays shown pairs) :
    fields.readMembers origin strangers shown (.ok place) = .ok a := by
  induction displayed generalizing fields with
  | nil =>
    simp only [Fields.readMembers, expected.collect]
    rfl
  | @cons member pair shown pairs here _ induction =>
    obtain ⟨key, value⟩ := pair
    obtain ⟨named, displayed⟩ := here
    obtain ⟨fresh, single⟩ := List.nodup_cons.mp single
    obtain ⟨next, offered, rest, same⟩ :=
      expected.offer distinct fresh (known key (.head _)) origin displayed
    have left : ∀ other ∈ pairs.map Prod.fst, other ∈ next.names := fun other later =>
      same ▸ known other (.tail _ later)
    simp only [Fields.readMembers, named, offered]
    exact induction rest (same ▸ distinct) single left

end Expects

/-- The members, from last to first, are the fields of the record `a` in their order. -/
inductive Gives : {α : Type} → Fields α → List (String × Json) → α → Prop
  | done {α : Type} (a : α) : Gives (.done a) [] a
  | and {α β : Type} {before : Fields (β → α)} {members : List (String × Json)} {f : β → α}
      {field : Field β} {value : Json} {b : β} (inner : Gives before members f)
      (reads : field.decode.Reads value b) :
      Gives (before.and field) ((field.name, value) :: members) (f b)

namespace Gives

variable {members : List (String × Json)} {fields : Fields α} {a : α}

theorem names_eq (gives : Gives fields members a) : members.map Prod.fst = fields.names := by
  induction gives with
  | done a => rfl
  | and inner reads induction => exact congrArg (_ :: ·) induction

theorem expects (gives : Gives fields members a) {pairs : List (String × Json)}
    (among : ∀ member ∈ members, member ∈ pairs) : Expects pairs fields a := by
  induction gives with
  | done a => exact .done a
  | and inner reads induction =>
    exact .wanted (induction fun member later => among member (.tail _ later))
      (among _ (.head _)) reads

end Gives

end Fields

namespace Decoder.Reads

/-- A record is read back if each of its fields is. -/
theorem record {fields : Fields α} {a : α} {members : List (String × Json)} (name : String)
    (distinct : fields.names.Nodup) (gives : fields.Gives members.reverse a) :
    (Decoder.record name fields).Reads (.obj members) a := by
  intro origin o displayed
  obtain ⟨before, shown, place, pairs, rfl, order, each⟩ := displayed.obj
  have back : pairs.Perm members.reverse := order.trans (List.reverse_perm members).symm
  have names : (pairs.map Prod.fst).Perm fields.names := gives.names_eq ▸ back.map Prod.fst
  exact (gives.expects fun member inside => back.mem_iff.mpr inside).readMembers distinct
    (names.nodup_iff.mpr distinct) (fun key inside => names.mem_iff.mp inside) origin _ place each

end Decoder.Reads

/-! ## Tagged records -/

namespace Decoder

variable {tag : String} {choose : Outline → Except ReadError α} {shown : List (Member Outline)}
  {pairs : List (String × Json)}

theorem tagMembers_of_untagged (untagged : tag ∉ pairs.map Prod.fst)
    (displayed : List.Forall₂ Member.Displays shown pairs) (found : Option α) (place : Place) :
    tagMembers tag choose found shown (.ok place) = .ok found := by
  induction displayed with
  | nil => rfl
  | @cons member pair shown pairs here _ induction =>
    obtain ⟨named, displayed⟩ := here
    obtain ⟨value, read⟩ := displayed.json
    simp only [List.map_cons, List.mem_cons, not_or] at untagged
    simp only [tagMembers, named, if_neg (Ne.symm untagged.1), read]
    exact induction untagged.2

/-- The tag is found wherever it stands. -/
theorem tagMembers_of_tagged {value : Json} {a : α} (tagged : (tag, value) ∈ pairs)
    (single : (pairs.map Prod.fst).Nodup) (chosen : ∀ o, Displays value o → choose o = .ok a)
    (displayed : List.Forall₂ Member.Displays shown pairs) (place : Place) :
    tagMembers tag choose none shown (.ok place) = .ok (some a) := by
  induction displayed with
  | nil => cases tagged
  | @cons member pair shown pairs here rest induction =>
    obtain ⟨named, displayed⟩ := here
    obtain ⟨fresh, single⟩ := List.nodup_cons.mp single
    by_cases mine : pair.1 = tag
    · have same : pair = (tag, value) := by
        rcases List.mem_cons.mp tagged with same | later
        · exact same.symm
        · exact absurd (mine ▸ List.mem_map_of_mem later) fresh
      subst same
      have read := chosen member.value displayed
      have left : tagMembers tag choose (some a) shown (.ok place) = .ok (some a) :=
        tagMembers_of_untagged fresh rest (some a) place
      simp only [tagMembers, named, if_true, read]
      exact left
    · have later : (tag, value) ∈ pairs := by
        rcases List.mem_cons.mp tagged with same | later
        · exact absurd (congrArg Prod.fst same.symm) mine
        · exact later
      obtain ⟨found, read⟩ := displayed.json
      simp only [tagMembers, named, if_neg mine, read]
      exact induction later single

/-- A document has one tag. -/
theorem tag_unique {name other : String} {members others : List (String × Json)} {o : Outline}
    (single : (tag :: members.map Prod.fst).Nodup) (alone : (tag :: others.map Prod.fst).Nodup)
    (first : Displays (.obj ((tag, .str name) :: members)) o)
    (second : Displays (.obj ((tag, .str other) :: others)) o) : name = other := by
  have tagged : ∀ (text : String) (o : Outline), Displays (.str text) o →
      Decoder.string .text o = .ok text := fun text => Reads.string text .text
  obtain ⟨before, shown, place, pairs, rfl, order, each⟩ := first.obj
  obtain ⟨_, _, _, found, same, rearranged, again⟩ := second.obj
  cases same
  have read := tagMembers_of_tagged (order.mem_iff.mpr (.head _))
    ((order.map Prod.fst).nodup_iff.mpr single) (tagged name) each place
  rw [tagMembers_of_tagged (rearranged.mem_iff.mpr (.head _))
    ((rearranged.map Prod.fst).nodup_iff.mpr alone) (tagged other) again place] at read
  exact (Option.some.inj (Except.ok.inj read)).symm

theorem filter_displays (displayed : List.Forall₂ Member.Displays shown pairs) :
    List.Forall₂ Member.Displays (shown.filter fun member => member.key ≠ .name tag)
      (pairs.filter fun pair => pair.1 ≠ tag) := by
  induction displayed with
  | nil => exact .nil
  | @cons member pair shown pairs here _ induction =>
    by_cases mine : pair.1 = tag
    · have dropped : member.key = .name tag := here.1.trans (congrArg Key.name mine)
      simpa [mine, dropped] using induction
    · have kept : member.key ≠ .name tag := by
        rw [here.1]
        exact fun same => mine (Key.name.inj same)
      simpa [mine, kept] using And.intro here induction

/-- A tagged record is read back if the record that its tag stands for is. -/
theorem Reads.tagged {variants : List (String × Decoder α)} {variant : String} {d : Decoder α}
    {members : List (String × Json)} {a : α} (name : String)
    (listed : variants.lookup variant = some d) (single : (members.map Prod.fst).Nodup)
    (untagged : tag ∉ members.map Prod.fst) (inner : d.Reads (.obj members) a) :
    (Decoder.tagged name tag variants).Reads (.obj ((tag, .str variant) :: members)) a := by
  intro origin o displayed
  obtain ⟨before, shown, place, pairs, rfl, order, each⟩ := displayed.obj
  have names := order.map Prod.fst
  have chosen : ∀ o, Displays (.str variant) o → variantTag variants o = .ok d := by
    intro o displayed
    obtain ⟨after, rfl⟩ := displayed.str
    simp only [variantTag, variantNamed, listed]
    rfl
  have found := tagMembers_of_tagged (order.mem_iff.mpr (.head _))
    (names.nodup_iff.mpr (List.nodup_cons.mpr ⟨untagged, single⟩)) chosen each place
  have others : (pairs.filter fun pair => pair.1 ≠ tag).Perm members := by
    have kept : ∀ member ∈ members, decide (member.1 ≠ tag) = true := by
      intro member inside
      simp only [decide_eq_true_eq]
      exact fun same => untagged (same ▸ List.mem_map_of_mem inside)
    have rest := order.filter fun pair => pair.1 ≠ tag
    rwa [List.filter_cons_of_neg (by simp), List.filter_eq_self.mpr kept] at rest
  have read := inner .held _ (.of_members others (filter_displays each) before place)
  simp only [Decoder.tagged, found]
  simp only [bind, Except.bind, read]
  rfl

/-! ## Dictionaries -/

theorem exists_perm_map {f : α → β} {left : List β} {right : List α}
    (order : left.Perm (right.map f)) :
    ∃ others : List α, others.Perm right ∧ left = others.map f := by
  have each : List.Forall₂ (fun b a => b = f a) (right.map f) right :=
    List.forall₂_map_left_iff.mpr (List.forall₂_same.mpr fun _ _ => rfl)
  obtain ⟨others, same, rest⟩ := List.perm_comp_forall₂ order each
  refine ⟨others, rest, ?_⟩
  have pointwise : List.Forall₂ Eq left (others.map f) := List.forall₂_map_right_iff.mpr same
  exact List.forall₂_eq_eq_eq ▸ pointwise

theorem entries_of_displays {d : Decoder α} {encode : α → Json}
    (inner : ∀ a, d.Reads (encode a) a) (origin : Origin) (place : Place)
    {bindings : List (String × α)}
    (displayed : List.Forall₂ Member.Displays shown
      (bindings.map fun binding => (binding.1, encode binding.2))) :
    entries d origin shown (.ok place) = .ok bindings := by
  induction bindings generalizing shown with
  | nil =>
    cases displayed
    rfl
  | cons binding rest induction =>
    cases displayed with
    | @cons member _ shown _ here others =>
      obtain ⟨named, displayed⟩ := here
      have read := inner binding.2 origin _ displayed
      simp only [entries, named, read]
      rw [induction others]
      rfl

/-- Of a dictionary, the bindings are read back in the order they stand. -/
theorem dictionary_of_displays {d : Decoder α} {encode : α → Json}
    (inner : ∀ a, d.Reads (encode a) a) {bindings : List (String × α)} {o : Outline}
    (displayed : Displays (.obj (bindings.map fun binding => (binding.1, encode binding.2))) o)
    (origin : Origin) :
    ∃ found : List (String × α), found.Perm bindings ∧
      Decoder.dictionary d origin o = .ok found := by
  obtain ⟨before, shown, place, pairs, rfl, order, each⟩ := displayed.obj
  obtain ⟨found, rest, rfl⟩ := exists_perm_map order
  exact ⟨found, rest, entries_of_displays inner origin place each⟩

end Decoder

/-! ## Objects as they are held -/

variable {pairs : List (String × Json)} {o : Outline}

theorem Displays.of_held (single : (pairs.map Prod.fst).Nodup)
    (displayed : Displays (.ofMembers pairs) o) : Displays (.obj pairs) o := by
  obtain ⟨other, rearranged, shown⟩ := displayed
  exact ⟨other, rearranged.of_perm (Members.ofList_perm single), shown⟩

theorem Decoder.Reads.ofMembers {d : Decoder α} {a : α} (single : (pairs.map Prod.fst).Nodup)
    (inner : d.Reads (.obj pairs) a) : d.Reads (.ofMembers pairs) a := by
  intro origin o displayed
  exact inner origin o (displayed.of_held single)

end Json

end BrowserScript

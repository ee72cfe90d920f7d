import Mathlib.Data.List.TakeWhile
import BrowserScript.Proofs.Script.Templates

/-!
# Placeholders in a text

What counts as a placeholder, said of the text itself: between the braces stands a name of one
or more name characters, with blanks on either side of it. Braces are neither blanks nor name
characters, so two placeholders of one text never overlap, and every placeholder that occurs in a
template is one of its pieces. Main definition: `Placeholder.WellFormed`. Main results:
`Placeholder.atFront?_eq_some_iff`, `Placeholder.apart`, `Template.segments_append_hole`.
-/

set_option autoImplicit false

namespace BrowserScript

namespace Placeholder

/-- The characters a name is written with: `A`-`Z`, `a`-`z`, `0`-`9`, `_`, `.` and `-`. -/
def InName (c : Char) : Prop :=
  ('A' ≤ c ∧ c ≤ 'Z') ∨ ('a' ≤ c ∧ c ≤ 'z') ∨ ('0' ≤ c ∧ c ≤ '9') ∨ c = '_' ∨ c = '.' ∨ c = '-'

/-- A name, and blanks around it. -/
structure WellFormed (p : Placeholder) : Prop where
  before : ∀ c ∈ p.before, Text.isBlank c = true
  named : p.name ≠ []
  name : ∀ c ∈ p.name, InName c
  after : ∀ c ∈ p.after, Text.isBlank c = true

/-- What stands between the braces. -/
def inner (p : Placeholder) : List Char := p.before ++ p.name ++ p.after

theorem text_eq (p : Placeholder) : p.text = '{' :: '{' :: (p.inner ++ ['}', '}']) := rfl

theorem isNameChar_iff (c : Char) : isNameChar c = true ↔ InName c := by
  have upper : c.isUpper = true ↔ 'A' ≤ c ∧ c ≤ 'Z' := decide_eq_true_iff
  have lower : c.isLower = true ↔ 'a' ≤ c ∧ c ≤ 'z' := by
    change (decide ('a' ≤ c) && decide (c ≤ 'z')) = true ↔ _
    rw [Bool.and_eq_true, decide_eq_true_eq, decide_eq_true_eq]
  have digit : c.isDigit = true ↔ '0' ≤ c ∧ c ≤ '9' := by
    change (decide ('0' ≤ c) && decide (c ≤ '9')) = true ↔ _
    rw [Bool.and_eq_true, decide_eq_true_eq, decide_eq_true_eq]
  have classes : c.isAlphanum = (c.isUpper || c.isLower || c.isDigit) := rfl
  simp only [isNameChar, InName, classes, Bool.or_eq_true, decide_eq_true_eq, upper, lower, digit,
    or_assoc]

/-- Name characters stand between the ASCII blanks and the blanks outside ASCII. -/
theorem InName.bounds {c : Char} (inName : InName c) : 33 ≤ c.toNat ∧ c.toNat ≤ 127 := by
  simp only [InName, Char.le_def, UInt32.le_iff_toNat_le] at inName
  change (65 ≤ c.toNat ∧ c.toNat ≤ 90) ∨ (97 ≤ c.toNat ∧ c.toNat ≤ 122) ∨
    (48 ≤ c.toNat ∧ c.toNat ≤ 57) ∨ _ at inName
  rcases inName with upper | lower | digit | rfl | rfl | rfl
  · omega
  · omega
  · omega
  all_goals decide

theorem InName.not_blank {c : Char} (inName : InName c) : Text.isBlank c = false := by
  obtain ⟨low, high⟩ := inName.bounds
  have space : c ≠ ' ' := by
    rintro rfl
    revert low
    decide
  simp only [Text.isBlank, Text.isAsciiBlank, Text.blankRanges, List.any_cons, List.any_nil]
  simp only [space, decide_false, Bool.false_or, Bool.or_false, Bool.or_eq_false_iff,
    Bool.and_eq_false_iff, decide_eq_false_iff_not]
  omega

theorem isNameChar_of_blank {c : Char} (blank : Text.isBlank c = true) : isNameChar c = false := by
  rw [Bool.eq_false_iff, ne_eq, isNameChar_iff]
  intro inName
  rw [inName.not_blank] at blank
  cases blank

theorem InName.ne_brace {c : Char} (inName : InName c) : c ≠ '{' ∧ c ≠ '}' := by
  rw [← isNameChar_iff] at inName
  constructor <;>
  · rintro rfl
    revert inName
    decide

theorem ne_brace_of_blank {c : Char} (blank : Text.isBlank c = true) : c ≠ '{' ∧ c ≠ '}' := by
  constructor <;>
  · rintro rfl
    revert blank
    decide

namespace WellFormed

variable {p : Placeholder}

theorem inner_ne_brace (formed : p.WellFormed) {c : Char} (member : c ∈ p.inner) :
    c ≠ '{' ∧ c ≠ '}' := by
  rcases List.mem_append.mp member with early | after
  · rcases List.mem_append.mp early with before | name
    · exact ne_brace_of_blank (formed.before c before)
    · exact (formed.name c name).ne_brace
  · exact ne_brace_of_blank (formed.after c after)

theorem inner_ne_nil (formed : p.WellFormed) : p.inner ≠ [] := by
  simp [inner, formed.named]

end WellFormed

/-! ## Reading a placeholder -/

/-- A run of characters of one kind, up to the first of another kind. -/
theorem takeWhile_run {kind : Char → Bool} {run rest : List Char} {next : Char}
    (same : ∀ c ∈ run, kind c = true) (other : kind next = false) :
    (run ++ next :: rest).takeWhile kind = run ∧
      (run ++ next :: rest).dropWhile kind = next :: rest := by
  have stops : ¬ kind next = true := by simp [other]
  rw [List.takeWhile_append_of_pos same, List.dropWhile_append_of_pos same,
    List.takeWhile_cons_of_neg stops, List.dropWhile_cons_of_neg stops, List.append_nil]
  exact ⟨rfl, rfl⟩

namespace WellFormed

variable {p : Placeholder}

theorem before_run (formed : p.WellFormed) (later : List Char) :
    (p.before ++ (p.name ++ later)).takeWhile Text.isBlank = p.before ∧
      (p.before ++ (p.name ++ later)).dropWhile Text.isBlank = p.name ++ later := by
  obtain ⟨first, more, named⟩ := List.exists_cons_of_ne_nil formed.named
  have inName : InName first := formed.name first (named ▸ List.mem_cons_self)
  rw [named, List.cons_append]
  exact takeWhile_run formed.before inName.not_blank

theorem name_run (formed : p.WellFormed) (later : List Char) :
    (p.name ++ (p.after ++ '}' :: later)).takeWhile isNameChar = p.name ∧
      (p.name ++ (p.after ++ '}' :: later)).dropWhile isNameChar = p.after ++ '}' :: later := by
  have names : ∀ c ∈ p.name, isNameChar c = true := fun c member =>
    (isNameChar_iff c).mpr (formed.name c member)
  cases blanks : p.after with
  | nil => exact takeWhile_run names (by decide)
  | cons blank more =>
    have isBlank : Text.isBlank blank = true := formed.after blank (blanks ▸ List.mem_cons_self)
    exact takeWhile_run names (isNameChar_of_blank isBlank)

theorem after_run (formed : p.WellFormed) (later : List Char) :
    (p.after ++ '}' :: later).takeWhile Text.isBlank = p.after ∧
      (p.after ++ '}' :: later).dropWhile Text.isBlank = '}' :: later :=
  takeWhile_run formed.after Text.brace_is_not_blank.2

end WellFormed

/-- Each of the three runs ends where the next one begins. -/
theorem atFront?_of_text {p : Placeholder} (formed : p.WellFormed) (rest : List Char) :
    atFront? (p.text ++ rest) = some (p, rest) := by
  have shape : p.text ++ rest =
      '{' :: '{' :: (p.before ++ (p.name ++ (p.after ++ '}' :: '}' :: rest))) := by
    simp [text]
  obtain ⟨before, onward⟩ := formed.before_run (p.after ++ '}' :: '}' :: rest)
  obtain ⟨name, further⟩ := formed.name_run ('}' :: rest)
  obtain ⟨after, last⟩ := formed.after_run ('}' :: rest)
  obtain ⟨first, more, named⟩ := List.exists_cons_of_ne_nil formed.named
  rw [shape]
  simp only [atFront?, before, onward, name, further, after, last]
  simp only [named]
  rw [← named]

/-- A text with a placeholder at its front is read as that placeholder and the rest. -/
theorem atFront?_eq_some_iff {cs rest : List Char} {p : Placeholder} :
    atFront? cs = some (p, rest) ↔ p.WellFormed ∧ cs = p.text ++ rest := by
  constructor
  · intro found
    unfold atFront? at found
    split at found
    · next given =>
      dsimp only at found
      split at found
      · next first more later named closed =>
        cases found
        refine ⟨⟨?_, ?_, ?_, ?_⟩, ?_⟩
        · exact fun c member => List.mem_takeWhile_imp member
        · exact named ▸ List.cons_ne_nil first more
        · exact fun c member => (isNameChar_iff c).mp (List.mem_takeWhile_imp member)
        · exact fun c member => List.mem_takeWhile_imp member
        · simp only [text, List.cons_append, List.append_assoc, List.nil_append]
          rw [← closed]
          simp only [List.takeWhile_append_dropWhile]
      · cases found
    · cases found
  · rintro ⟨formed, rfl⟩
    exact atFront?_of_text formed rest

/-! ## Two placeholders in one text -/

theorem text_injective {p q : Placeholder} (formed : p.WellFormed) (other : q.WellFormed)
    {rest later : List Char} (same : p.text ++ rest = q.text ++ later) : p = q ∧ rest = later := by
  have first := atFront?_of_text formed rest
  rw [same, atFront?_of_text other later] at first
  cases first
  exact ⟨rfl, rfl⟩

/-- A placeholder that begins behind the front of a text begins behind the placeholder that stands
at the front. -/
theorem apart {p q : Placeholder} (formed : p.WellFormed)
    {early late rest : List Char} (behind : early ≠ [])
    (same : p.text ++ rest = early ++ (q.text ++ late)) :
    ∃ middle, early = p.text ++ middle ∧ rest = middle ++ (q.text ++ late) := by
  rcases List.append_eq_append_iff.mp same with onward | ⟨shared, inside, onward⟩
  · exact onward
  -- Otherwise the second begins inside the first, with a brace that can only be one of the first's
  -- own two, and not the front one.
  obtain ⟨c, more, rfl⟩ := List.exists_cons_of_ne_nil behind
  cases shared with
  | nil => exact ⟨[], by simpa using inside.symm, by simpa using onward.symm⟩
  | cons brace shared =>
    rw [text_eq, List.cons_append, List.cons_append] at onward
    obtain ⟨rfl, second⟩ := List.cons.inj onward
    have inside := (List.cons.inj (p.text_eq.symm.trans inside)).2
    cases more with
    | nil =>
      obtain rfl := (List.cons.inj inside).2
      obtain ⟨d, ds, filled⟩ := List.exists_cons_of_ne_nil formed.inner_ne_nil
      have member : d ∈ p.inner := filled ▸ List.mem_cons_self
      rw [filled] at second
      exact absurd (List.cons.inj second).1.symm (formed.inner_ne_brace member).1
    | cons d more =>
      have inside := (List.cons.inj inside).2
      have member : '{' ∈ p.inner ++ ['}', '}'] := by simp [inside]
      rcases List.mem_append.mp member with within | closing
      · exact absurd rfl (formed.inner_ne_brace within).1
      · exact absurd closing (by decide)

end Placeholder

namespace Template

open Placeholder (atFront? atFront?_eq_some_iff atFront?_of_text)

/-- A placeholder that occurs in a template is one of its pieces, wherever it stands. -/
theorem segments_append_hole {p : Placeholder} (formed : p.WellFormed) (early late : List Char) :
    segments (early ++ (p.text ++ late)) = segments early ++ .hole p :: segments late := by
  match early with
  | [] => rw [List.nil_append, segments_nil, segments_of_hole (atFront?_of_text formed late)]; rfl
  | c :: more =>
    cases found : atFront? (c :: more ++ (p.text ++ late)) with
    | some front =>
      obtain ⟨q, rest⟩ := front
      obtain ⟨other, same⟩ := atFront?_eq_some_iff.mp found
      obtain ⟨middle, first, rfl⟩ := Placeholder.apart other (List.cons_ne_nil c more)
        same.symm
      have shorter : middle.length < (c :: more).length := by
        rw [first, List.length_append]
        simp [Placeholder.text]
      have front : atFront? (c :: more) = some (q, middle) :=
        atFront?_eq_some_iff.mpr ⟨other, first⟩
      rw [segments_of_hole found, segments_of_hole front, segments_append_hole formed middle late,
        List.cons_append]
    | none =>
      have front : atFront? (c :: more) = none := by
        cases front : atFront? (c :: more) with
        | none => rfl
        | some read =>
          obtain ⟨other, same⟩ := atFront?_eq_some_iff.mp front
          rw [same, List.append_assoc, atFront?_of_text other] at found
          cases found
      rw [List.cons_append] at found ⊢
      rw [segments_of_no_hole found, segments_of_no_hole front,
        segments_append_hole formed more late, List.cons_append]
termination_by early.length
decreasing_by
  · exact Nat.lt_succ_self more.length
  · exact shorter

end Template

end BrowserScript

import BrowserScript.Proofs.Lists
import BrowserScript.Proofs.Script.Substitution

/-!
# Filling a filled template

A value is not looked at again while a template is filled, but it may complete a placeholder
together with the braces around it. So a filled template can change when it is filled once more,
even if no value has a brace in it: exactly if the braces around a filled placeholder are left to
make a new one with its value. Main definitions: `Template.Braceless`, `Template.Encloses`. Main
results: `Template.filled_eq_self_iff`, `Template.refers_filled_iff`, `Template.refilled_iff`.
-/

set_option autoImplicit false

namespace BrowserScript.Template

variable {vars : Variables}

/-- No value has a brace in it. -/
def Braceless (vars : Variables) : Prop :=
  ∀ name value, vars.get? name = some value → ∀ c ∈ value.toList, c ≠ '{' ∧ c ≠ '}'

/-- The name is defined and the text refers to it. -/
def RefersDefined (vars : Variables) (s : String) : Prop :=
  ∃ name, Refers s name ∧ vars.get? name ≠ none

/-- A brace outside the placeholders opens, another one closes, and what is shown from the one to
the other is a placeholder with a defined name. -/
def Encloses (vars : Variables) (parts : List Segment) : Prop :=
  ∃ (early inside late : List Segment) (p : Placeholder),
    parts = early ++ .plain '{' :: (inside ++ .plain '}' :: late) ∧
    p.WellFormed ∧ vars.get? (String.ofList p.name) ≠ none ∧
    p.text = '{' :: (inside.flatMap (Segment.shown vars) ++ ['}'])

theorem toList_filled (vars : Variables) (s : String) :
    (filled vars s).toList = (segments s.toList).flatMap (Segment.shown vars) := by
  rw [filled, substitute_eq, String.toList_ofList]

/-! ## A filled placeholder changes the text -/

/-- The opening braces a piece shows are among those it is written with. -/
theorem shown_braces_le (spare : Braceless vars) (segment : Segment) :
    (segment.shown vars).count '{' ≤ segment.text.count '{' := by
  cases segment with
  | plain c => exact le_rfl
  | hole p =>
    simp only [Segment.shown, Segment.text]
    cases defined : vars.get? (String.ofList p.name) with
    | none => exact le_rfl
    | some value =>
      have none : '{' ∉ value.toList := fun member => (spare _ _ defined _ member).1 rfl
      rw [Option.map_some, Option.getD_some, List.count_eq_zero_of_not_mem none]
      exact Nat.zero_le _

theorem flatMap_shown_braces_le (spare : Braceless vars) (parts : List Segment) :
    (parts.flatMap (Segment.shown vars)).count '{' ≤ (parts.flatMap Segment.text).count '{' := by
  induction parts with
  | nil => exact le_rfl
  | cons segment rest induction =>
    simp only [List.flatMap_cons, List.count_append]
    exact Nat.add_le_add (shown_braces_le spare segment) induction

/-- A filled placeholder takes its braces with it. -/
theorem shown_braces_lt (spare : Braceless vars) {p : Placeholder}
    (defined : vars.get? (String.ofList p.name) ≠ none) :
    ((Segment.hole p).shown vars).count '{' < (Segment.hole p).text.count '{' := by
  obtain ⟨value, found⟩ := Option.ne_none_iff_exists'.mp defined
  have none : '{' ∉ value.toList := fun member => (spare _ _ found _ member).1 rfl
  simp only [Segment.shown, Segment.text, found, Option.map_some, Option.getD_some]
  rw [List.count_eq_zero_of_not_mem none, Placeholder.text_eq, List.count_cons_self]
  exact Nat.succ_pos _

/-- Filling leaves alone the texts that refer to no defined name, and only these. -/
theorem filled_eq_self_iff (spare : Braceless vars) (s : String) :
    filled vars s = s ↔ ¬ RefersDefined vars s := by
  constructor
  · rintro same ⟨_, ⟨p, early, late, formed, occurs, rfl⟩, defined⟩
    obtain ⟨before, after, parts, -⟩ := hole_of_occurs formed occurs
    have written := segments_text s.toList
    have shown := (toList_filled vars s).symm.trans (congrArg String.toList same)
    have fewer := shown_braces_lt spare defined
    have front := flatMap_shown_braces_le spare before
    have back := flatMap_shown_braces_le spare after
    have equal := congrArg (List.count '{') (shown.trans written.symm)
    rw [parts] at equal
    simp only [List.flatMap_append, List.flatMap_cons, List.count_append] at equal
    omega
  · intro undefined
    refine filled_of_undefined fun name refers => ?_
    by_contra defined
    exact undefined ⟨name, refers, defined⟩

/-! ## Where a placeholder of the filled text comes from -/

/-- A character of a text that is made of pieces is in one of them. -/
theorem split_flatMap {A B : Type} {f : A → List B} {items : List A} {early late : List B} {b : B}
    (same : items.flatMap f = early ++ b :: late) :
    ∃ before item after front back, items = before ++ item :: after ∧
      f item = front ++ b :: back ∧ early = before.flatMap f ++ front ∧
      late = back ++ after.flatMap f := by
  induction items generalizing early with
  | nil => simp at same
  | cons first rest induction =>
    rw [List.flatMap_cons] at same
    rcases split_cons same with ⟨back, here, rfl⟩ | ⟨middle, rfl, later⟩
    · exact ⟨[], first, rest, early, back, rfl, here, rfl, rfl⟩
    · obtain ⟨before, item, after, front, back, rfl, here, rfl, rfl⟩ := induction later
      exact ⟨first :: before, item, after, front, back, rfl, here, by simp, rfl⟩

/-- A piece that shows a brace is that brace, or a placeholder that is not filled. -/
theorem brace_of_shown (spare : Braceless vars) {segment : Segment} {front back : List Char}
    {c : Char} (brace : c = '{' ∨ c = '}') (shows : segment.shown vars = front ++ c :: back) :
    segment = .plain c ∧ front = [] ∧ back = [] ∨
      ∃ q, segment = .hole q ∧ vars.get? (String.ofList q.name) = none ∧
        q.text = front ++ c :: back := by
  cases segment with
  | plain d =>
    obtain ⟨rfl, same⟩ | ⟨_, _, later⟩ := List.cons_eq_append_iff.mp shows
    · cases same
      exact .inl ⟨rfl, rfl, rfl⟩
    · simp at later
  | hole q =>
    simp only [Segment.shown] at shows
    cases found : vars.get? (String.ofList q.name) with
    | none =>
      rw [found] at shows
      exact .inr ⟨q, rfl, found, shows⟩
    | some value =>
      rw [found, Option.map_some, Option.getD_some] at shows
      have member : c ∈ value.toList := shows ▸ List.mem_append_right front List.mem_cons_self
      rcases brace with rfl | rfl
      · exact absurd rfl (spare _ _ found _ member).1
      · exact absurd rfl (spare _ _ found _ member).2

/-- A placeholder that begins inside another one is that one. -/
theorem eq_of_begins_inside {p q : Placeholder} (formed : p.WellFormed) (other : q.WellFormed)
    {front back late later : List Char} (held : q.text = front ++ '{' :: back)
    (onward : p.text ++ late = '{' :: (back ++ later)) : p = q := by
  have same : q.text ++ later = front ++ (p.text ++ late) := by rw [held, onward]; simp
  cases front with
  | nil => exact (Placeholder.text_injective other formed same).1.symm
  | cons c more =>
    obtain ⟨middle, longer, -⟩ := Placeholder.apart other (List.cons_ne_nil c more) same
    have length := congrArg List.length held
    rw [longer] at length
    simp only [List.length_append, List.length_cons] at length
    omega

/-- A placeholder that begins behind the front of another one does not hold the last brace of that
one. -/
theorem not_ends_inside {p q : Placeholder} (formed : p.WellFormed)
    {shown front late later : List Char}
    (inner : '{' :: (p.inner ++ ['}']) = shown ++ front)
    (onward : p.text ++ late = ('{' :: shown) ++ (q.text ++ later)) : False := by
  obtain ⟨middle, longer, -⟩ := Placeholder.apart formed (List.cons_ne_nil '{' shown) onward
  have inside := congrArg List.length inner
  have whole := congrArg List.length longer
  simp [Placeholder.text_eq] at inside whole
  omega

/-- What a defined name, read in the filled text, is written with begins and ends with a brace that
stands outside the placeholders. -/
theorem encloses_of_refers (spare : Braceless vars) {t : String}
    (refers : RefersDefined vars (filled vars t)) : Encloses vars (segments t.toList) := by
  obtain ⟨_, ⟨p, early, late, formed, occurs, rfl⟩, defined⟩ := refers
  rw [toList_filled] at occurs
  have reads := reads_segments t.toList
  generalize segments t.toList = parts at occurs reads
  -- The first brace: a placeholder it stood in would have to be the defined one.
  obtain ⟨before, first, rest, front, back, rfl, shows, rfl, onward⟩ :
      ∃ before first rest front back, parts = before ++ first :: rest ∧
        first.shown vars = front ++ '{' :: back ∧
        early = before.flatMap (Segment.shown vars) ++ front ∧
        '{' :: (p.inner ++ ['}', '}']) ++ late = back ++ rest.flatMap (Segment.shown vars) :=
    split_flatMap occurs
  rcases brace_of_shown spare (.inl rfl) shows with ⟨rfl, rfl, rfl⟩ | ⟨q, rfl, undefined, held⟩
  swap
  · have other := reads.formed (List.mem_append_right before List.mem_cons_self)
    have same := eq_of_begins_inside formed other held (congrArg ('{' :: ·) onward)
    exact absurd (same ▸ undefined) defined
  -- The last brace: a placeholder it stood in would begin behind the first brace.
  have closes : rest.flatMap (Segment.shown vars) = '{' :: (p.inner ++ ['}']) ++ '}' :: late := by
    simpa using onward.symm
  obtain ⟨inside, last, after, front, back, rfl, shows, inner, rfl⟩ := split_flatMap closes
  rcases brace_of_shown spare (.inr rfl) shows with ⟨rfl, rfl, rfl⟩ | ⟨q, rfl, undefined, held⟩
  swap
  · rw [List.flatMap_append, List.flatMap_cons, shows, ← held] at closes
    have whole : p.text ++ (back ++ after.flatMap (Segment.shown vars)) =
        ('{' :: inside.flatMap (Segment.shown vars)) ++
          (q.text ++ after.flatMap (Segment.shown vars)) := by
      rw [List.cons_append, closes, Placeholder.text_eq]
      simp
    exact (not_ends_inside formed inner whole).elim
  refine ⟨before, inside, after, p, rfl, formed, defined, ?_⟩
  rw [List.append_nil] at inner
  rw [← inner, Placeholder.text_eq]
  simp

theorem refers_of_encloses {t : String} (encloses : Encloses vars (segments t.toList)) :
    RefersDefined vars (filled vars t) := by
  obtain ⟨early, inside, late, p, parts, formed, defined, written⟩ := encloses
  refine ⟨_, ⟨p, early.flatMap (Segment.shown vars), late.flatMap (Segment.shown vars), formed, ?_,
    rfl⟩, defined⟩
  rw [toList_filled, parts, written]
  simp [Segment.shown]

/-- Names that are read in the filled text are enclosed by braces of the template. -/
theorem refers_filled_iff (spare : Braceless vars) (t : String) :
    RefersDefined vars (filled vars t) ↔ Encloses vars (segments t.toList) :=
  ⟨encloses_of_refers spare, refers_of_encloses⟩

/-! ## Filling twice -/

/-- What is behind a piece of a reading is read the same by itself. -/
theorem Reads.behind {cs : List Char} {before after : List Segment}
    (reads : Reads cs (before ++ after)) : Reads (after.flatMap Segment.text) after := by
  induction before generalizing cs with
  | nil =>
    rw [List.nil_append] at reads
    rwa [reads.text]
  | cons segment rest induction =>
    cases reads with
    | plain _ onward | hole _ onward => exact induction onward

theorem Reads.bare {cs : List Char} {c : Char} {after : List Segment} {p : Placeholder}
    (reads : Reads cs (.plain c :: after)) (formed : p.WellFormed) (later : List Char) :
    cs ≠ p.text ++ later := by
  cases reads with
  | plain bare _ => exact bare p later formed

/-- Among the pieces that are enclosed is a placeholder that was filled: otherwise the template
would have the new placeholder in place of the brace. -/
theorem filled_of_encloses {cs : List Char} {early inside late : List Segment} {p : Placeholder}
    (parts : segments cs = early ++ .plain '{' :: (inside ++ .plain '}' :: late))
    (formed : p.WellFormed)
    (written : p.text = '{' :: (inside.flatMap (Segment.shown vars) ++ ['}'])) :
    ∃ q, .hole q ∈ inside ∧ vars.get? (String.ofList q.name) ≠ none := by
  by_contra unfilled
  have undefined : ∀ q, .hole q ∈ inside → vars.get? (String.ofList q.name) = none := by
    intro q member
    by_contra defined
    exact unfilled ⟨q, member, defined⟩
  have reads := (parts ▸ reads_segments cs).behind
  rw [shown_of_undefined undefined] at written
  refine reads.bare formed (late.flatMap Segment.text) ?_
  rw [written]
  simp [Segment.text]

/-- Filling a template again changes nothing unless the template encloses a placeholder in braces
that make a new one with what it is filled with. -/
theorem refilled_iff (vars : Variables) (spare : Braceless vars) (t : String) :
    (filled vars (filled vars t) = filled vars t ↔ ¬ Encloses vars (segments t.toList)) ∧
      ∀ (early inside late : List Segment) (p : Placeholder),
        segments t.toList = early ++ .plain '{' :: (inside ++ .plain '}' :: late) →
        p.WellFormed → p.text = '{' :: (inside.flatMap (Segment.shown vars) ++ ['}']) →
          ∃ q, .hole q ∈ inside ∧ vars.get? (String.ofList q.name) ≠ none := by
  refine ⟨?_, fun _ _ _ _ parts formed written => filled_of_encloses parts formed written⟩
  rw [filled_eq_self_iff spare, refers_filled_iff spare]

/-- Variables one of which has the name of the other as its value. -/
def chained : Variables := .ofList [("a", "b"), ("b", "c")]

theorem chained_braceless : Braceless chained := by
  intro name value found
  obtain ⟨early, late, entries, -⟩ := List.lookup_eq_some_iff.mp found
  have member : (name, value) ∈ chained.entries :=
    entries ▸ List.mem_append_right early List.mem_cons_self
  have listed : chained.entries = [("a", "b"), ("b", "c")] := by decide
  rw [listed] at member
  rcases List.mem_cons.mp member with same | member
  · cases same
    simp
  · cases List.mem_singleton.mp member
    simp

/-- A template without braces outside its placeholders is filled once and for all. -/
theorem refilled_without_plain_braces :
    Braceless chained ∧
      filled chained (filled chained "\x7b\x7ba\x7d\x7d/\x7b\x7bx\x7d\x7d") =
        filled chained "\x7b\x7ba\x7d\x7d/\x7b\x7bx\x7d\x7d" := by
  refine ⟨chained_braceless, (refilled_iff _ chained_braceless _).1.mpr ?_⟩
  rintro ⟨early, inside, late, p, parts, -⟩
  have spelled : "\x7b\x7ba\x7d\x7d/\x7b\x7bx\x7d\x7d".toList =
      ['{', '{', 'a', '}', '}', '/', '{', '{', 'x', '}', '}'] := by decide
  have first : Placeholder.atFront? ['{', '{', 'a', '}', '}', '/', '{', '{', 'x', '}', '}'] =
      some (⟨[], ['a'], []⟩, ['/', '{', '{', 'x', '}', '}']) := by decide
  have second : Placeholder.atFront? ['{', '{', 'x', '}', '}'] = some (⟨[], ['x'], []⟩, []) := by
    decide
  rw [spelled, segments_of_hole first, segments_of_no_hole (by decide), segments_of_hole second,
    segments_nil] at parts
  have member : Segment.plain '{' ∈
      [Segment.hole ⟨[], ['a'], []⟩, .plain '/', .hole ⟨[], ['x'], []⟩] :=
    parts ▸ List.mem_append_right early List.mem_cons_self
  exact absurd member (by decide)

/-- Four braces on either side: two of them are left on either side of the value, which is taken for
a name when the template is filled again. -/
theorem refilled_differs :
    Braceless chained ∧
      filled chained "\x7b\x7b\x7b\x7ba\x7d\x7d\x7d\x7d" = "\x7b\x7bb\x7d\x7d" ∧
      filled chained (filled chained "\x7b\x7b\x7b\x7ba\x7d\x7d\x7d\x7d") = "c" := by
  have once : filled chained "\x7b\x7b\x7b\x7ba\x7d\x7d\x7d\x7d" = "\x7b\x7bb\x7d\x7d" := by
    have spelled : "\x7b\x7b\x7b\x7ba\x7d\x7d\x7d\x7d".toList =
        ['{', '{', '{', '{', 'a', '}', '}', '}', '}'] := by decide
    have inner : Placeholder.atFront? ['{', '{', 'a', '}', '}', '}', '}'] =
        some (⟨[], ['a'], []⟩, ['}', '}']) := by decide
    rw [filled, substitute_eq, spelled, segments_of_no_hole (by decide),
      segments_of_no_hole (by decide), segments_of_hole inner, segments_of_no_hole (by decide),
      segments_of_no_hole (by decide), segments_nil]
    decide
  have whole : Placeholder.atFront? "\x7b\x7bb\x7d\x7d".toList = some (⟨[], ['b'], []⟩, []) := by
    decide
  exact ⟨chained_braceless, once, once ▸ filled_of_hole whole (by decide)⟩

end BrowserScript.Template

import BrowserScript.Script.Template

/-!
# Filled templates

How a template comes apart into its pieces, and when nothing is left of it. A template without two
opening braces need not be scanned, but scanning it gives the same. Main definitions:
`Template.filled`, `Template.Vanishes`. Main results: `Template.filled_eq_scan`,
`Template.filled_eq_empty_iff`.
-/

set_option autoImplicit false

namespace BrowserScript.Template

theorem segments_nil : segments [] = [] := by
  rw [segments]
  split
  · next found => cases found
  · rfl

theorem segments_of_hole {cs rest : List Char} {p : Placeholder}
    (found : Placeholder.atFront? cs = some (p, rest)) :
    segments cs = .hole p :: segments rest := by
  rw [segments]
  split
  · next other =>
    rw [found] at other
    cases other
    rfl
  · next none =>
    rw [found] at none
    cases none

theorem segments_of_no_hole {c : Char} {rest : List Char}
    (none : Placeholder.atFront? (c :: rest) = none) :
    segments (c :: rest) = .plain c :: segments rest := by
  rw [segments]
  split
  · next found =>
    rw [none] at found
    cases found
  · rfl

/-- A placeholder begins with two opening braces. -/
theorem atFront?_of_plain {cs : List Char} (plain : hasOpening cs = false) :
    Placeholder.atFront? cs = none := by
  unfold Placeholder.atFront?
  split
  · next rest => cases plain
  · rfl

theorem hasOpening_of_cons {c : Char} {rest : List Char} (plain : hasOpening (c :: rest) = false) :
    hasOpening rest = false := by
  unfold hasOpening at plain
  split at plain
  · cases plain
  · next same =>
    cases same
    exact plain
  · next same => cases same

theorem segments_of_plain {cs : List Char} (plain : hasOpening cs = false) :
    segments cs = cs.map Segment.plain := by
  induction cs with
  | nil => exact segments_nil
  | cons c rest induction =>
    rw [segments_of_no_hole (atFront?_of_plain plain), induction (hasOpening_of_cons plain),
      List.map_cons]

theorem scan_of_plain {cs : List Char} (plain : hasOpening cs = false) (vars : Variables) :
    scan cs vars = (cs, []) := by
  unfold scan
  rw [segments_of_plain plain, List.map_map]
  induction cs with
  | nil => rfl
  | cons c rest induction =>
    have later := induction (hasOpening_of_cons plain)
    simp only [Prod.mk.injEq] at later ⊢
    exact ⟨congrArg (c :: ·) later.1, later.2⟩

/-- A text with its placeholders filled. -/
def filled (vars : Variables) (s : String) : String := (substitute s vars).1

theorem filled_eq_scan (vars : Variables) (s : String) :
    filled vars s = String.ofList (scan s.toList vars).1 := by
  unfold filled substitute
  split
  · rfl
  · next plain =>
    rw [scan_of_plain (Bool.eq_false_iff.mpr plain), String.ofList_toList]

/-- A text that is one placeholder becomes the value of its name. -/
theorem filled_of_hole {vars : Variables} {s value : String} {p : Placeholder}
    (whole : Placeholder.atFront? s.toList = some (p, []))
    (defined : vars.get? (String.ofList p.name) = some value) : filled vars s = value := by
  rw [filled_eq_scan, scan, segments_of_hole whole, segments_nil]
  simp only [List.map_cons, List.map_nil, fill, defined, List.flatMap_cons, List.flatMap_nil,
    List.append_nil, String.ofList_toList]

/-- Nothing of a template is left: it consists of placeholders, each with the empty text as its
value. -/
def Vanishes (vars : Variables) (s : String) : Prop :=
  ∀ segment ∈ segments s.toList, ∃ p, segment = .hole p ∧ vars.get? (String.ofList p.name) = some ""

theorem fill_eq_nil_iff (vars : Variables) (segment : Segment) :
    (fill vars segment).1 = [] ↔
      ∃ p, segment = .hole p ∧ vars.get? (String.ofList p.name) = some "" := by
  cases segment with
  | plain c => simp [fill]
  | hole p =>
    simp only [fill, Segment.hole.injEq, exists_eq_left']
    cases found : vars.get? (String.ofList p.name) with
    | none => simp [Placeholder.text]
    | some value => simp

theorem filled_eq_empty_iff (vars : Variables) (s : String) :
    filled vars s = "" ↔ Vanishes vars s := by
  have empty : filled vars s = "" ↔ (scan s.toList vars).1 = [] := by
    rw [filled_eq_scan, String.ofList_eq_empty_iff]
  have pieces : (scan s.toList vars).1 = [] ↔
      ∀ segment ∈ segments s.toList, (fill vars segment).1 = [] := by
    simp [scan, List.flatMap_eq_nil_iff]
  rw [empty, pieces]
  exact forall₂_congr fun segment _ => fill_eq_nil_iff vars segment

end BrowserScript.Template

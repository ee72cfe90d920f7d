import Mathlib.Data.List.Basic
import BrowserScript.Proofs.Script.Filling
import BrowserScript.Proofs.Script.Placeholders

/-!
# What substitution gives

A reading of a template takes a placeholder wherever one stands next, and else one character. There
is exactly one reading of every template, and all placeholders that occur in the template are in it.
Substitution shows the reading with the values of the defined names in place, and reports the names
of the others; in a document it does so with every string. Main definitions: `Template.Reads`,
`Segment.shown`, `Json.texts`. Main results: `Template.reads_iff`, `Template.substitute_eq`,
`Template.substitution_as_read`.
-/

set_option autoImplicit false

namespace BrowserScript

/-! ## Pieces -/

namespace Segment

/-- A piece as it is written. -/
def text : Segment → List Char
  | plain c => [c]
  | hole p => p.text

/-- A piece as it is shown: a placeholder gives way to the value of its name, if there is one. -/
def shown (vars : Variables) : Segment → List Char
  | plain c => [c]
  | hole p => ((vars.get? (String.ofList p.name)).map String.toList).getD p.text

/-- The name that has no value. -/
def missing? (vars : Variables) : Segment → Option String
  | plain _ => none
  | hole p => if vars.get? (String.ofList p.name) = none then some (String.ofList p.name) else none

end Segment

namespace Template

open Placeholder (atFront? atFront?_eq_some_iff)

/-- A reading of a text from left to right. A character is taken by itself only where no placeholder
begins. -/
inductive Reads : List Char → List Segment → Prop
  | done : Reads [] []
  | plain {c : Char} {rest : List Char} {parts : List Segment}
      (bare : ∀ (p : Placeholder) (later : List Char), p.WellFormed → c :: rest ≠ p.text ++ later)
      (onward : Reads rest parts) : Reads (c :: rest) (.plain c :: parts)
  | hole {p : Placeholder} {rest : List Char} {parts : List Segment} (formed : p.WellFormed)
      (onward : Reads rest parts) : Reads (p.text ++ rest) (.hole p :: parts)

theorem atFront?_eq_none_iff {cs : List Char} :
    atFront? cs = none ↔
      ∀ (p : Placeholder) (later : List Char), p.WellFormed → cs ≠ p.text ++ later := by
  constructor
  · rintro none p later formed rfl
    rw [Placeholder.atFront?_of_text formed] at none
    cases none
  · intro bare
    cases found : atFront? cs with
    | none => rfl
    | some front =>
      obtain ⟨formed, same⟩ := atFront?_eq_some_iff.mp found
      exact absurd same (bare _ _ formed)

theorem reads_segments (cs : List Char) : Reads cs (segments cs) := by
  cases found : atFront? cs with
  | some front =>
    obtain ⟨p, rest⟩ := front
    have shorter := Placeholder.at_front_shorter found
    obtain ⟨formed, rfl⟩ := atFront?_eq_some_iff.mp found
    rw [segments_of_hole found]
    exact .hole formed (reads_segments rest)
  | none =>
    match cs with
    | [] =>
      rw [segments_nil]
      exact .done
    | c :: rest =>
      rw [segments_of_no_hole found]
      exact .plain (atFront?_eq_none_iff.mp found) (reads_segments rest)
termination_by cs.length

theorem Reads.eq_segments {cs : List Char} {parts : List Segment} (reads : Reads cs parts) :
    parts = segments cs := by
  induction reads with
  | done => exact segments_nil.symm
  | plain bare _ induction => rw [segments_of_no_hole (atFront?_eq_none_iff.mpr bare), induction]
  | hole formed _ induction =>
    rw [segments_of_hole (Placeholder.atFront?_of_text formed _), induction]

/-- Every text has exactly one reading. -/
theorem reads_iff {cs : List Char} {parts : List Segment} :
    Reads cs parts ↔ parts = segments cs := by
  constructor
  · exact Reads.eq_segments
  · rintro rfl
    exact reads_segments cs

theorem Reads.text {cs : List Char} {parts : List Segment} (reads : Reads cs parts) :
    parts.flatMap Segment.text = cs := by
  induction reads with
  | done => rfl
  | plain _ _ induction | hole _ _ induction => rw [List.flatMap_cons, induction]; rfl

theorem segments_text (cs : List Char) : (segments cs).flatMap Segment.text = cs :=
  (reads_segments cs).text

theorem Reads.formed {cs : List Char} {parts : List Segment} (reads : Reads cs parts)
    {p : Placeholder} (member : .hole p ∈ parts) : p.WellFormed := by
  induction reads with
  | done => cases member
  | plain _ _ induction =>
    rcases List.mem_cons.mp member with same | later
    · cases same
    · exact induction later
  | hole formed _ induction =>
    rcases List.mem_cons.mp member with same | later
    · cases same
      exact formed
    · exact induction later

/-- A placeholder of the reading stands in the text, between what is written before and after. -/
theorem occurs_of_hole {cs : List Char} {p : Placeholder} {before after : List Segment}
    (parts : segments cs = before ++ .hole p :: after) :
    p.WellFormed ∧
      cs = before.flatMap Segment.text ++ (p.text ++ after.flatMap Segment.text) := by
  constructor
  · exact (reads_segments cs).formed (parts ▸ List.mem_append_right before List.mem_cons_self)
  · rw [← segments_text cs, parts, List.flatMap_append, List.flatMap_cons]
    rfl

/-! ## Texts -/

theorem fill_fst (vars : Variables) (segment : Segment) :
    (fill vars segment).1 = segment.shown vars := by
  cases segment with
  | plain c => rfl
  | hole p =>
    simp only [fill, Segment.shown]
    cases vars.get? (String.ofList p.name) <;> rfl

theorem fill_snd (vars : Variables) (segment : Segment) :
    (fill vars segment).2 = (segment.missing? vars).toList := by
  cases segment with
  | plain c => rfl
  | hole p =>
    simp only [fill, Segment.missing?]
    cases vars.get? (String.ofList p.name) <;> rfl

theorem scan_eq (vars : Variables) (cs : List Char) :
    scan cs vars = ((segments cs).flatMap (Segment.shown vars),
      (segments cs).filterMap (Segment.missing? vars)) := by
  have shown : (fun segment => (fill vars segment).1) = Segment.shown vars :=
    funext (fill_fst vars)
  have missing : (fun segment => (fill vars segment).2) =
      fun segment => (segment.missing? vars).toList := funext (fill_snd vars)
  unfold scan
  simp only [List.flatMap_map]
  rw [shown, missing, ← List.filterMap_eq_flatMap_toList]

/-- Whether a text is scanned or passed over makes no difference. -/
theorem substitute_eq_scan (vars : Variables) (template : String) :
    substitute template vars =
      (String.ofList (scan template.toList vars).1, (scan template.toList vars).2) := by
  unfold substitute
  split
  · rfl
  · next plain =>
    rw [scan_of_plain (Bool.eq_false_iff.mpr plain), String.ofList_toList]

theorem substitute_eq (vars : Variables) (template : String) :
    substitute template vars =
      (String.ofList ((segments template.toList).flatMap (Segment.shown vars)),
        (segments template.toList).filterMap (Segment.missing? vars)) := by
  rw [substitute_eq_scan, scan_eq]

/-- A placeholder that occurs in a text stands in the reading of the text at its place. -/
theorem hole_of_occurs {p : Placeholder} {cs early late : List Char} (formed : p.WellFormed)
    (occurs : cs = early ++ (p.text ++ late)) :
    ∃ before after, segments cs = before ++ .hole p :: after ∧
      before.flatMap Segment.text = early ∧ after.flatMap Segment.text = late :=
  ⟨segments early, segments late, occurs ▸ segments_append_hole formed early late,
    segments_text early, segments_text late⟩

theorem shown_of_undefined {vars : Variables} {parts : List Segment}
    (undefined : ∀ p, .hole p ∈ parts → vars.get? (String.ofList p.name) = none) :
    parts.flatMap (Segment.shown vars) = parts.flatMap Segment.text := by
  refine List.flatMap_congr fun segment member => ?_
  cases segment with
  | plain c => rfl
  | hole p => simp [Segment.shown, Segment.text, undefined p member]

/-- A name is referred to by a text: a placeholder with the name occurs in it. -/
def Refers (s name : String) : Prop :=
  ∃ (p : Placeholder) (early late : List Char), p.WellFormed ∧
    s.toList = early ++ (p.text ++ late) ∧ String.ofList p.name = name

/-- A text that refers to no defined name stays as it is. -/
theorem filled_of_undefined {vars : Variables} {s : String}
    (undefined : ∀ name, Refers s name → vars.get? name = none) : filled vars s = s := by
  have holes : ∀ p, .hole p ∈ segments s.toList → vars.get? (String.ofList p.name) = none := by
    intro p member
    obtain ⟨before, after, parts⟩ := List.append_of_mem member
    obtain ⟨formed, occurs⟩ := occurs_of_hole parts
    exact undefined _ ⟨p, _, _, formed, occurs, rfl⟩
  rw [filled, substitute_eq, shown_of_undefined holes, segments_text, String.ofList_toList]

end Template

/-! ## Documents -/

namespace Json

mutual

/-- The strings of a value in the order they stand; keys are not among them. -/
def texts : Json → List String
  | .str s => [s]
  | .arr items => textsOfItems items
  | .obj members => textsOfMembers members
  | _ => []

def textsOfItems : List Json → List String
  | [] => []
  | item :: rest => texts item ++ textsOfItems rest

def textsOfMembers : List (String × Json) → List String
  | [] => []
  | (_, value) :: rest => texts value ++ textsOfMembers rest

end

variable {f : String → String}

mutual

/-- A rewriting that leaves every string of a value alone leaves the value alone. -/
theorem mapText_of_texts (value : Json) (same : ∀ s ∈ value.texts, f s = s) :
    value.mapText f = value := by
  cases value with
  | null | bool | num => rfl
  | str s => exact congrArg str (same s List.mem_cons_self)
  | arr items => exact congrArg arr (mapItems_of_texts items same)
  | obj members => exact congrArg obj (mapMembers_of_texts members same)

theorem mapItems_of_texts (items : List Json) (same : ∀ s ∈ textsOfItems items, f s = s) :
    mapItems f items = items := by
  cases items with
  | nil => rfl
  | cons item rest =>
    simp only [textsOfItems, List.mem_append, or_imp, forall_and] at same
    rw [mapItems, mapText_of_texts item same.1, mapItems_of_texts rest same.2]

theorem mapMembers_of_texts (members : List (String × Json))
    (same : ∀ s ∈ textsOfMembers members, f s = s) : mapMembers f members = members := by
  cases members with
  | nil => rfl
  | cons member rest =>
    obtain ⟨key, value⟩ := member
    simp only [textsOfMembers, List.mem_append, or_imp, forall_and] at same
    rw [mapMembers, mapText_of_texts value same.1, mapMembers_of_texts rest same.2]

end

end Json

namespace Template

mutual

theorem substituteJson_snd (vars : Variables) (value : Json) :
    (substituteJson vars value).2 = value.texts.flatMap fun s => (substitute s vars).2 := by
  cases value with
  | null | bool | num => rfl
  | str s => exact (List.flatMap_singleton (fun s => (substitute s vars).2) s).symm
  | arr items => exact substituteItems_snd vars items
  | obj members => exact substituteMembers_snd vars members

theorem substituteItems_snd (vars : Variables) (items : List Json) :
    (substituteItems vars items).2 =
      (Json.textsOfItems items).flatMap fun s => (substitute s vars).2 := by
  cases items with
  | nil => rfl
  | cons item rest =>
    simp only [substituteItems, Json.textsOfItems, List.flatMap_append]
    rw [substituteJson_snd vars item, substituteItems_snd vars rest]

theorem substituteMembers_snd (vars : Variables) (members : List (String × Json)) :
    (substituteMembers vars members).2 =
      (Json.textsOfMembers members).flatMap fun s => (substitute s vars).2 := by
  cases members with
  | nil => rfl
  | cons member rest =>
    obtain ⟨key, value⟩ := member
    simp only [substituteMembers, Json.textsOfMembers, List.flatMap_append]
    rw [substituteJson_snd vars value, substituteMembers_snd vars rest]

end

/-- A text has one reading, which holds every placeholder that occurs in the text. Substitution
shows the pieces of the reading with the values in place and reports the undefined names in order,
whether the text is scanned or passed over. In a document it rewrites the strings and nothing else,
and nothing at all if no name is defined that a string refers to. -/
theorem substitution_as_read (vars : Variables) :
    (∀ template : String, ∃ parts,
      (∀ other, Reads template.toList other ↔ other = parts) ∧
      parts.flatMap Segment.text = template.toList ∧
      (∀ (p : Placeholder) (early late : List Char), p.WellFormed →
        template.toList = early ++ (p.text ++ late) →
          ∃ before after, parts = before ++ .hole p :: after ∧
            before.flatMap Segment.text = early ∧ after.flatMap Segment.text = late) ∧
      substitute template vars =
        (String.ofList (parts.flatMap (Segment.shown vars)),
          parts.filterMap (Segment.missing? vars)) ∧
      substitute template vars =
        (String.ofList (scan template.toList vars).1, (scan template.toList vars).2)) ∧
    ∀ value : Json,
      substituteJson vars value =
        (value.mapText fun s => (substitute s vars).1,
          value.texts.flatMap fun s => (substitute s vars).2) ∧
      ((∀ s ∈ value.texts, ∀ name, Refers s name → vars.get? name = none) →
        (substituteJson vars value).1 = value) := by
  constructor
  · intro template
    exact ⟨segments template.toList, fun other => reads_iff, segments_text _,
      fun p early late formed occurs => hole_of_occurs formed occurs, substitute_eq vars template,
      substitute_eq_scan vars template⟩
  · intro value
    refine ⟨Prod.ext (substituteJson_fst vars value) (substituteJson_snd vars value), ?_⟩
    intro undefined
    rw [substituteJson_fst]
    exact Json.mapText_of_texts value fun s member => filled_of_undefined (undefined s member)

/-- Three braces in front: the placeholder begins at the second. Its value looks like a placeholder
and is not filled; the blanks of an undefined placeholder stay. A key is not looked at. -/
theorem substitution_as_read_braces :
    substitute "\x7b\x7b\x7bb\x7d\x7d\x7b\x7b a \x7d\x7d"
        (Variables.empty.insert "b" "\x7b\x7ba\x7d\x7d") =
      ("\x7b\x7b\x7ba\x7d\x7d\x7b\x7b a \x7d\x7d", ["a"]) ∧
    (substituteJson (Variables.empty.insert "b" "\x7b\x7ba\x7d\x7d")
      (.obj [("\x7b\x7bb\x7d\x7d", .arr [.bool true, .str "\x7b\x7ba\x7d\x7d"])])).1 =
        .obj [("\x7b\x7bb\x7d\x7d", .arr [.bool true, .str "\x7b\x7ba\x7d\x7d"])] := by
  constructor
  · obtain ⟨parts, unique, -, -, shown, -⟩ :=
      (substitution_as_read (Variables.empty.insert "b" "\x7b\x7ba\x7d\x7d")).1
        "\x7b\x7b\x7bb\x7d\x7d\x7b\x7b a \x7d\x7d"
    have spelled : "\x7b\x7b\x7bb\x7d\x7d\x7b\x7b a \x7d\x7d".toList =
        ['{', '{', '{', 'b', '}', '}', '{', '{', ' ', 'a', ' ', '}', '}'] := by decide
    have first : Placeholder.atFront? ['{', '{', 'b', '}', '}', '{', '{', ' ', 'a', ' ', '}', '}'] =
        some (⟨[], ['b'], []⟩, ['{', '{', ' ', 'a', ' ', '}', '}']) := by decide
    have second : Placeholder.atFront? ['{', '{', ' ', 'a', ' ', '}', '}'] =
        some (⟨[' '], ['a'], [' ']⟩, []) := by decide
    rw [shown, ← (unique _).mp (reads_segments _), spelled, segments_of_no_hole (by decide),
      segments_of_hole first, segments_of_hole second, segments_nil]
    decide
  · refine ((substitution_as_read _).2 _).2 fun s member name refers => ?_
    obtain rfl : s = "\x7b\x7ba\x7d\x7d" := List.mem_singleton.mp member
    obtain ⟨p, early, late, formed, occurs, rfl⟩ := refers
    have spelled : "\x7b\x7ba\x7d\x7d".toList = ['{', '{', 'a', '}', '}'] := by decide
    obtain ⟨before, after, parts, -⟩ := hole_of_occurs formed occurs
    have whole : Placeholder.atFront? ['{', '{', 'a', '}', '}'] = some (⟨[], ['a'], []⟩, []) := by
      decide
    rw [spelled, segments_of_hole whole, segments_nil] at parts
    have same : Segment.hole p ∈ [Segment.hole ⟨[], ['a'], []⟩] :=
      parts ▸ List.mem_append_right before List.mem_cons_self
    obtain rfl := Segment.hole.inj (List.mem_singleton.mp same)
    decide

end Template

end BrowserScript

import Mathlib.Data.String.Basic
import BrowserScript.Store.Files

/-!
# Paths

A path is cut at its slashes, and what it names depends on the pieces only. Main results:
`FilePath.splitOn_join`, `FilePath.parent_eq`, `FileTree.find?_eq_file_iff`,
`FileTree.listing_eq_file_iff`.
-/

set_option autoImplicit false

namespace BrowserScript

namespace FilePath

/-! ## Cutting at slashes -/

open String in
/-- The loop that cuts a text at its slashes. The pieces in `l` are in `acc`, and `m` is the part of
the next piece that has been passed. -/
theorem splitOnAux_slash (l m r : List Char) (acc : List String) :
    splitOnAux (ofList (l ++ m ++ r)) "/" ⟨utf8Len l⟩ ⟨utf8Len l + utf8Len m⟩ 0 acc =
      acc.reverse ++ (List.splitOnPPrepend (· == '/') r m.reverse).map ofList := by
  cases r with
  | nil =>
    have piece := extract_of_valid l m []
    have ended : Pos.Raw.atEnd (ofList (l ++ m ++ [])) ⟨utf8Len l + utf8Len m⟩ = true := by
      rw [atEnd_iff, rawEndPos_ofList]
      simp
    rw [splitOnAux, if_pos ended]
    simpa using piece
  | cons c r =>
    have piece := extract_of_valid l m (c :: r)
    have here : Pos.Raw.get (ofList (l ++ m ++ c :: r)) ⟨utf8Len l + utf8Len m⟩ = c := by
      simpa using get_of_valid (l ++ m) (c :: r)
    have next : Pos.Raw.next (ofList (l ++ m ++ c :: r)) ⟨utf8Len l + utf8Len m⟩ =
        ⟨utf8Len l + utf8Len m + c.utf8Size⟩ := by
      simpa using next_of_valid (l ++ m) c r
    have running : ¬ Pos.Raw.atEnd (ofList (l ++ m ++ c :: r)) ⟨utf8Len l + utf8Len m⟩ = true := by
      have wide := c.utf8Size_pos
      rw [atEnd_iff, rawEndPos_ofList]
      simp
      omega
    have slash : Pos.Raw.get "/" 0 = '/' := by decide
    rw [splitOnAux, if_neg running, here, slash]
    by_cases same : c = '/'
    · subst same
      have after := splitOnAux_slash (l ++ m ++ ['/']) [] r (ofList m :: acc)
      have size : '/'.utf8Size = 1 := by decide
      have width : Pos.Raw.next "/" 0 = ⟨1⟩ := by decide
      have whole : Pos.Raw.atEnd "/" ⟨1⟩ = true := by decide
      have back : (⟨utf8Len l + utf8Len m + 1⟩ : Pos.Raw).unoffsetBy ⟨1⟩ =
          ⟨utf8Len l + utf8Len m⟩ := rfl
      simp only [beq_self_eq_true, if_true, next, size, width, whole, back, piece]
      simpa [List.splitOnPPrepend_cons_eq_if, Nat.add_assoc, size] using after
    · have after := splitOnAux_slash l (m ++ [c]) r acc
      have back : (⟨utf8Len l + utf8Len m⟩ : Pos.Raw).unoffsetBy 0 = ⟨utf8Len l + utf8Len m⟩ := rfl
      simp only [beq_eq_false_iff_ne.mpr same, Bool.false_eq_true, if_false, back, next]
      simpa [List.splitOnPPrepend_cons_eq_if, same, Nat.add_assoc] using after

theorem splitOn_slash (path : String) :
    path.splitOn "/" = (path.toList.splitOn '/').map String.ofList := by
  have whole := splitOnAux_slash [] [] path.toList []
  rw [List.splitOn_eq_splitOnP, List.splitOnP_eq_splitOnPPrepend]
  simpa [String.splitOn] using whole

theorem splitOn_ne_nil (path : String) : path.splitOn "/" ≠ [] := by
  rw [splitOn_slash]
  exact fun empty => List.splitOn_ne_nil _ _ (List.map_eq_nil_iff.mp empty)

theorem splitOn_join (first second : String) :
    (first ++ "/" ++ second).splitOn "/" = first.splitOn "/" ++ second.splitOn "/" := by
  have slash : "/".toList = ['/'] := rfl
  simp only [splitOn_slash, String.toList_append, slash, List.append_assoc, List.singleton_append,
    List.splitOn_append_cons_self, List.map_append]

theorem splitOn_name {name : String} (whole : '/' ∉ name.toList) : name.splitOn "/" = [name] := by
  rw [splitOn_slash, List.splitOn_eq_singleton whole]
  simp

theorem intercalate_splitOn (path : String) : "/".intercalate (path.splitOn "/") = path := by
  have slash : "/".toList = ['/'] := rfl
  apply String.toList_injective
  rw [String.toList_intercalate, splitOn_slash, List.map_map, slash]
  simp [Function.comp_def, List.intercalate_splitOn]

theorem splitOn_injective {first second : String}
    (same : first.splitOn "/" = second.splitOn "/") : first = second := by
  rw [← intercalate_splitOn first, same, intercalate_splitOn]

theorem splitOn_intercalate {names : List String} (whole : ∀ name ∈ names, '/' ∉ name.toList)
    (some : names ≠ []) : ("/".intercalate names).splitOn "/" = names := by
  have slash : "/".toList = ['/'] := rfl
  have pieces : ∀ piece ∈ names.map String.toList, '/' ∉ piece := by
    simpa using whole
  rw [splitOn_slash, String.toList_intercalate, slash, List.splitOn_intercalate '/' pieces
    (by simpa using some), List.map_map]
  simp [Function.comp_def]

/-- No piece of a path has a slash in it. -/
theorem whole_of_mem_splitOn {path piece : String} (member : piece ∈ path.splitOn "/") :
    '/' ∉ piece.toList := by
  rw [splitOn_slash] at member
  obtain ⟨letters, cut, rfl⟩ := List.mem_map.mp member
  rw [String.toList_ofList]
  generalize path.toList = cs at cut
  clear member
  induction cs generalizing letters with
  | nil =>
    rw [List.splitOn_nil, List.mem_singleton] at cut
    simp [cut]
  | cons c rest induction =>
    rw [List.splitOn_cons_eq_if_modifyHead] at cut
    split at cut
    · rcases List.mem_cons.mp cut with rfl | later
      · simp
      · exact induction letters later
    · next other =>
      obtain ⟨first, others, split⟩ := List.exists_cons_of_ne_nil (List.splitOn_ne_nil '/' rest)
      rw [split, List.modifyHead_cons] at cut
      rcases List.mem_cons.mp cut with rfl | later
      · have first := induction first (split ▸ .head _)
        simp only [List.mem_cons, not_or]
        exact ⟨fun same => other (beq_iff_eq.mpr same.symm), first⟩
      · exact induction letters (split ▸ .tail _ later)

/-- A path cut between two pieces. -/
theorem joined {path : String} {before after : List String}
    (parts : path.splitOn "/" = before ++ after) (inner : before ≠ []) (outer : after ≠ []) :
    path = "/".intercalate before ++ "/" ++ "/".intercalate after := by
  have whole : ∀ piece ∈ before ++ after, '/' ∉ piece.toList := fun piece member =>
    whole_of_mem_splitOn (parts ▸ member)
  rw [List.forall_mem_append] at whole
  apply splitOn_injective
  rw [splitOn_join, splitOn_intercalate whole.1 inner, splitOn_intercalate whole.2 outer, parts]

/-! ## The ends of a path -/

section

variable {path name : String} {front : List String}

/-- A path ends in a slash and a name when that is its last piece and not its only one. -/
theorem endsWith_iff (parts : path.splitOn "/" = front ++ [name]) (last : String)
    (whole : '/' ∉ last.toList) :
    path.endsWith ("/" ++ last) = true ↔ name = last ∧ front ≠ [] := by
  rw [String.endsWith_eq_endsWith_toSlice, String.Slice.endsWith_string_iff, String.copy_toSlice]
  constructor
  · intro ending
    obtain ⟨before, same⟩ := ending
    have split : path = String.ofList before ++ "/" ++ last := by
      apply String.toList_injective
      simp [← same]
    rw [split, splitOn_join, splitOn_name whole] at parts
    obtain ⟨inner, outer⟩ := List.append_inj' parts rfl
    exact ⟨(List.cons.inj outer).1.symm, inner ▸ splitOn_ne_nil _⟩
  · intro ending
    obtain ⟨rfl, inner⟩ := ending
    rw [joined parts inner (List.cons_ne_nil _ _), String.append_assoc]
    simp

theorem startsWith_iff (parts : path.splitOn "/" = front ++ [name]) :
    path.startsWith "/" = true ↔ front.head? = some "" := by
  rw [String.startsWith_string_iff]
  constructor
  · intro starting
    obtain ⟨rest, same⟩ := starting
    have split : path = "" ++ "/" ++ String.ofList rest := by
      apply String.toList_injective
      simp [← same]
    rw [split, splitOn_join, splitOn_name (by decide)] at parts
    cases front with
    | nil => exact absurd (List.cons.inj parts).2 (splitOn_ne_nil _)
    | cons first others => exact congrArg some (List.cons.inj parts).1.symm
  · intro absolute
    cases front with
    | nil => cases absolute
    | cons first others =>
      cases absolute
      have leading : path.splitOn "/" = [""] ++ (others ++ [name]) := parts
      rw [joined leading (List.cons_ne_nil _ _) (by simp)]
      simp

theorem isEmpty_iff (parts : path.splitOn "/" = front ++ [name]) :
    path.isEmpty = true ↔ front = [] ∧ name = "" := by
  rw [String.isEmpty_iff]
  constructor
  · intro empty
    rw [empty, splitOn_name (by decide)] at parts
    cases front with
    | nil => exact ⟨rfl, (List.cons.inj parts).1.symm⟩
    | cons first others =>
      have none := (List.cons.inj parts).2
      simp at none
  · intro empty
    rw [empty.1, empty.2] at parts
    apply splitOn_injective
    rw [parts, splitOn_name (by decide)]
    rfl

end

/-! ## The directory of a path -/

/-- What is cut off a path leads nowhere. -/
theorem filter_trimmed (pieces : List String) :
    (trimmed pieces).filter (fun piece => !(piece.isEmpty || piece == ".")) =
      pieces.filter fun piece => !(piece.isEmpty || piece == ".") := by
  induction pieces with
  | nil => rfl
  | cons last rest induction =>
    unfold trimmed
    split
    · next idle =>
      have skipped : last.isEmpty = true ∨ last = "." := by
        simp only [Bool.or_eq_true, Bool.and_eq_true, beq_iff_eq] at idle
        exact idle.imp_right And.left
      rw [induction, List.filter_cons]
      rcases skipped with empty | dot
      · simp [empty]
      · simp [dot]
    · rfl

theorem trimmed_suffix (pieces : List String) : trimmed pieces <:+ pieces := by
  induction pieces with
  | nil => exact List.suffix_refl _
  | cons last rest induction =>
    unfold trimmed
    split
    · exact induction.trans (List.suffix_cons _ _)
    · exact List.suffix_refl _

theorem trimmed_of_name {last : String} {rest : List String} (named : last ≠ "")
    (proper : last = "." → rest = []) : trimmed (last :: rest) = last :: rest := by
  unfold trimmed
  rw [if_neg]
  simp only [Bool.or_eq_true, String.isEmpty_iff, Bool.and_eq_true, beq_iff_eq, not_or, not_and]
  exact ⟨named, fun dot => by simp [proper dot]⟩

theorem head_trimmed {pieces rest : List String} {last : String}
    (kept : trimmed pieces = last :: rest) : last ≠ "" := by
  induction pieces with
  | nil => cases kept
  | cons piece others induction =>
    unfold trimmed at kept
    split at kept
    · exact induction kept
    · next proper =>
      cases kept
      simp only [Bool.or_eq_true, String.isEmpty_iff, not_or] at proper
      exact proper.1

theorem components_eq {path : String} {front : List String} {name : String}
    (parts : path.splitOn "/" = front ++ [name]) (named : name ≠ "") :
    components path = front.filter (fun piece => !(piece.isEmpty || piece == ".")) ++
      if name = "." then [] else [name] := by
  unfold components
  rw [parts, List.filter_append]
  by_cases dot : name = "."
  · simp [dot]
  · simp [dot, named]

theorem fileName_eq {path : String} {front : List String} {name : String}
    (parts : path.splitOn "/" = front ++ [name]) (named : name ≠ "")
    (proper : name = "." → front = []) : fileName path = name := by
  have back : (front ++ [name]).reverse = name :: front.reverse := by simp
  unfold fileName backwards
  rw [parts, back, trimmed_of_name named (by simpa using proper)]
  rfl

theorem fileName_name {name : String} (whole : '/' ∉ name.toList) (named : name ≠ "") :
    fileName name = name := by
  have parts : name.splitOn "/" = [] ++ [name] := splitOn_name whole
  exact fileName_eq parts named fun _ => rfl

theorem parent_eq {path : String} {front : List String} {name : String}
    (parts : path.splitOn "/" = front ++ [name]) (named : name ≠ "")
    (proper : name = "." → front = []) (relative : front.head? ≠ some "") :
    parent path = "/".intercalate (trimmed front.reverse).reverse := by
  have back : (front ++ [name]).reverse = name :: front.reverse := by simp
  unfold parent backwards
  rw [parts, back, trimmed_of_name named (by simpa using proper), List.tail_cons]
  cases trimmed front.reverse with
  | nil =>
    have start := (startsWith_iff parts).not.mpr relative
    simp only [start, Bool.false_eq_true, if_false]
    rfl
  | cons last up => rfl

end FilePath

namespace FileTree

open FilePath

/-- When a path names a file: it is relative, ends in a name, and leads to a place that holds the
file. -/
theorem find?_eq_file_iff {tree : FileTree} {path name text : String} {front : List String}
    (parts : path.splitOn "/" = front ++ [name]) :
    tree.find? path = some (.file text) ↔
      front.head? ≠ some "" ∧ name ≠ "" ∧ (name = "." → front = []) ∧
        ∃ place, tree.resolve [] (components path) = some place ∧
          tree.at? place = some (.file text) := by
  have start := startsWith_iff parts
  have empty := isEmpty_iff parts
  have slash : path.endsWith "/" = true ↔ name = "" ∧ front ≠ [] :=
    endsWith_iff parts "" (by decide)
  have dot : path.endsWith "/." = true ↔ name = "." ∧ front ≠ [] :=
    endsWith_iff parts "." (by decide)
  unfold find?
  simp only [Bool.or_eq_true, start, empty, slash, dot]
  constructor
  · intro found
    split at found
    · cases found
    · next relative =>
      split at found
      · cases found
      · next place leads =>
        split at found
        · next held =>
          split at found
          · cases found
          · next proper =>
            cases found
            simp only [not_or, not_and] at relative proper
            refine ⟨relative.2, fun unnamed => ?_, fun dotted => not_not.mp (proper.2 dotted),
              place, leads, held⟩
            exact relative.1 (not_not.mp (proper.1 unnamed)) unnamed
        · next other => exact absurd found (other text)
  · rintro ⟨relative, named, proper, place, leads, held⟩
    rw [if_neg (by simp [relative, named]), leads]
    dsimp only
    rw [held]
    dsimp only
    rw [if_neg]
    rintro (⟨unnamed, _⟩ | ⟨dotted, inner⟩)
    · exact named unnamed
    · exact inner (proper dotted)

theorem resolve_append (tree : FileTree) (place first second : List String) :
    tree.resolve place (first ++ second) =
      (tree.resolve place first).bind fun inner => tree.resolve inner second := by
  induction first generalizing place with
  | nil => rfl
  | cons component rest induction =>
    rw [List.cons_append, resolve, resolve]
    split
    · split
      · split
        · rfl
        · exact induction _
      · exact induction _
    · rfl

/-- Going on to a name from a place needs a directory there. -/
theorem resolve_name {tree : FileTree} {place inner : List String} {name : String}
    (inside : name ≠ "..") :
    tree.resolve place [name] = some inner ↔
      tree.at? place = some .directory ∧ inner = place ++ [name] := by
  rw [resolve]
  split
  · next here =>
    rw [if_neg inside, resolve]
    simp [here, eq_comm]
  · next other =>
    constructor
    · exact nofun
    · exact fun here => absurd here.1 other

/-- A file at the root. -/
theorem find?_of_name {tree : FileTree} {name text : String} (whole : '/' ∉ name.toList)
    (proper : name ∉ ["", ".", ".."]) (root : tree.at? [] = some .directory)
    (held : tree.at? [name] = some (.file text)) : tree.find? name = some (.file text) := by
  simp only [List.mem_cons, List.not_mem_nil, or_false, not_or] at proper
  have parts : name.splitOn "/" = [] ++ [name] := splitOn_name whole
  have single : components name = [name] := by
    rw [components_eq parts proper.1, if_neg proper.2.1]
    rfl
  refine (find?_eq_file_iff parts).mpr ⟨by simp, proper.1, fun _ => rfl, [name], ?_, held⟩
  rw [single]
  exact (resolve_name proper.2.2).mpr ⟨root, rfl⟩

/-! ## Files directly inside a directory -/

/-- The directory that a relative path names holds a file of this name and text. -/
def Holds (tree : FileTree) (directory name text : String) : Prop :=
  directory.toList.head? ≠ some '/' ∧ ∃ place,
    tree.resolve [] (components directory) = some place ∧ tree.at? place = some .directory ∧
      tree.at? (place ++ [name]) = some (.file text)

/-- A name that is only a name is looked for directly inside the directory. -/
theorem listing_eq_file_iff {tree : FileTree} {directory name text : String}
    (whole : '/' ∉ name.toList) (proper : name ∉ ["", ".", ".."]) :
    tree.listing directory name = some (.file text) ↔ tree.Holds directory name text := by
  simp only [List.mem_cons, List.not_mem_nil, or_false, not_or] at proper
  obtain ⟨named, undotted, inside⟩ := proper
  have found : ∀ {path : String} {front : List String}, path.splitOn "/" = front ++ [name] →
      front.filter (fun piece => !(piece.isEmpty || piece == ".")) = components directory →
      (front.head? = some "" ↔ directory.toList.head? = some '/') →
      (tree.find? path = some (.file text) ↔ tree.Holds directory name text) := by
    intro path front parts above start
    have single : components path = components directory ++ [name] := by
      rw [components_eq parts named, above, if_neg undotted]
    rw [find?_eq_file_iff parts, single, Holds, ne_eq, start]
    simp only [resolve_append, Option.bind_eq_some_iff, resolve_name inside]
    constructor
    · rintro ⟨relative, -, -, _, ⟨place, leads, here, rfl⟩, held⟩
      exact ⟨relative, place, leads, here, held⟩
    · rintro ⟨relative, place, leads, here, held⟩
      exact ⟨relative, named, fun dot => absurd dot undotted, _, ⟨place, leads, here, rfl⟩, held⟩
  have single : name.splitOn "/" = [name] := splitOn_name whole
  unfold listing
  split
  · next empty =>
    obtain rfl := String.isEmpty_iff.mp empty
    have none : components "" = [] := by
      rw [components, splitOn_name (by decide)]
      rfl
    have alone : name.splitOn "/" = [] ++ [name] := single
    refine found alone ?_ ?_
    · rw [none]
      rfl
    · simp
  · next some =>
    have parts : (directory ++ "/" ++ name).splitOn "/" = directory.splitOn "/" ++ [name] := by
      rw [splitOn_join, single]
    refine found parts rfl ?_
    rw [← startsWith_iff parts, String.startsWith_string_iff]
    obtain ⟨first, rest, letters⟩ : ∃ first rest, directory.toList = first :: rest :=
      List.exists_cons_of_ne_nil (by simpa using some)
    have slash : "/".toList = ['/'] := rfl
    simp only [String.toList_append, letters, slash, List.cons_append, List.cons_prefix_cons,
      List.nil_prefix, List.head?_cons, Option.some.injEq, and_true, eq_comm]

end FileTree

end BrowserScript

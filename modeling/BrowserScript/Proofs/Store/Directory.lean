import BrowserScript.Proofs.Store.Paths
import BrowserScript.Store.Directory

/-!
# Scripts in a directory

Which file an id stands for, and what is read from it. Main definition: `DirectoryStore.First`. Main
results: `FileName.eq_of_extension`, `DirectoryStore.load_of_first`,
`DirectoryStore.load_of_no_file`.
-/

set_option autoImplicit false

namespace BrowserScript

/-! ## Names of files -/

namespace FileName

theorem toList_withExtension (id extension : String) :
    s!"{id}.{extension}".toList = id.toList ++ '.' :: extension.toList := by
  simp [toString]

theorem parts_withExtension {id extension : String} (named : id ≠ "") (some : extension ≠ "")
    (plain : '.' ∉ extension.toList) : parts s!"{id}.{extension}" = (id, .some extension) := by
  have letters := toList_withExtension id extension
  have back : (id.toList ++ '.' :: extension.toList).reverse =
      extension.toList.reverse ++ '.' :: id.toList.reverse := by simp
  have plainly : ∀ c ∈ extension.toList.reverse, (c != '.') = true := by
    intro c member
    rw [bne_iff_ne]
    intro dot
    exact plain (dot ▸ List.mem_reverse.mp member)
  have behind : (extension.toList.reverse ++ '.' :: id.toList.reverse).takeWhile (· != '.') =
      extension.toList.reverse := by
    rw [List.takeWhile_append_of_pos plainly]
    simp
  have before : (extension.toList.reverse ++ '.' :: id.toList.reverse).dropWhile (· != '.') =
      '.' :: id.toList.reverse := by
    rw [List.dropWhile_append_of_pos plainly]
    simp
  have proper : s!"{id}.{extension}" ≠ ".." := by
    intro dots
    rw [dots] at letters
    have same : extension.toList.reverse = [] := by
      rw [← behind, ← back, ← letters]
      rfl
    simp [some] at same
  obtain ⟨first, rest, split⟩ : ∃ first rest, id.toList.reverse = first :: rest :=
    List.exists_cons_of_ne_nil (by simpa using named)
  rw [split] at back behind before
  unfold parts
  simp only [letters, back, behind, before]
  rw [if_neg proper, ← split]
  simp

/-- A name with an extension is made of its stem and the extension. -/
theorem eq_of_extension {name extension : String}
    (found : FileName.extension name = some extension) : name = s!"{stem name}.{extension}" := by
  have whole := List.takeWhile_append_dropWhile (p := (· != '.')) (l := name.toList.reverse)
  have first := List.head?_dropWhile_not (fun c => c != '.') name.toList.reverse
  unfold FileName.extension stem parts at *
  dsimp only at found ⊢
  split at found
  · next dot last rest behind =>
    split at found
    · cases found
    · next proper =>
      cases found
      rw [behind] at whole first
      rw [if_neg proper]
      have dotted : dot = '.' := by simpa using first
      have letters := congrArg List.reverse whole
      apply String.toList_injective
      rw [toList_withExtension]
      simpa [dotted] using letters.symm
  · cases found

end FileName

theorem FilePath.fileName_withExtension {id extension : String} (whole : '/' ∉ id.toList)
    (single : '/' ∉ extension.toList) :
    fileName s!"{id}.{extension}" = s!"{id}.{extension}" := by
  have letters := FileName.toList_withExtension id extension
  have parts : s!"{id}.{extension}".splitOn "/" = [] ++ [s!"{id}.{extension}"] := by
    apply splitOn_name
    rw [letters]
    simp [whole, single]
  apply fileName_eq parts
  · intro empty
    rw [empty] at letters
    simp at letters
  · intro
    rfl

/-! ## Loading -/

namespace Script

theorem id_of_ofFile {name text : String} {script : Script} (read : ofFile name text = .ok script) :
    script.id = FileName.stem name := by
  have named : ∀ parsed : Except LoadError Script,
      (parsed >>= fun found => pure (found.withId (FileName.stem name))) = .ok script →
        script.id = FileName.stem name := by
    intro parsed made
    cases parsed with
    | error error => cases made
    | ok found =>
      cases made
      rfl
  unfold ofFile at read
  split at read
  · exact named _ read
  · exact named _ read
  · exact named _ read

theorem load_eq_ok_iff {listing : Listing} {path : String} {script : Script} :
    load listing path = .ok script ↔
      ∃ text, listing path = some (.file text) ∧
        ofFile (FilePath.fileName path) text = .ok script := by
  unfold load
  split
  · next text here => simp [here]
  · next other =>
    constructor
    · intro read
      cases read
    · rintro ⟨text, here, _⟩
      exact absurd here (other text)

end Script

namespace DirectoryStore

/-- What is known of an id that is looked up. -/
theorem of_accepted {id : String} (accepted : refuses id = false) :
    id ≠ "" ∧ '/' ∉ id.toList ∧ id.toList.head? ≠ some '.' := by
  simp only [refuses, Bool.or_eq_false_iff, List.any_eq_false, beq_eq_false_iff_ne] at accepted
  obtain ⟨⟨some, plain⟩, shown⟩ := accepted
  refine ⟨?_, ?_, shown⟩
  · intro empty
    simp [empty] at some
  · intro member
    exact plain _ member (by simp)

theorem of_extension {extension : String} (known : extension ∈ extensions) :
    extension ≠ "" ∧ '/' ∉ extension.toList ∧ '.' ∉ extension.toList := by
  revert extension
  decide

/-- Of the files that an id may stand for, the first there is has this extension. -/
structure First (store : DirectoryStore) (id extension : String) : Prop where
  here : store.isFile s!"{id}.{extension}" = true
  earliest : ∃ tried untried, extensions = tried ++ extension :: untried ∧
    ∀ earlier ∈ tried, store.isFile s!"{id}.{earlier}" = false

theorem First.known {store : DirectoryStore} {id extension : String}
    (first : store.First id extension) : extension ∈ extensions := by
  obtain ⟨tried, untried, split, _⟩ := first.earliest
  simp [split]

theorem fileFor_eq_iff {store : DirectoryStore} {id name : String}
    (accepted : refuses id = false) :
    store.fileFor id = .ok name ↔
      ∃ extension, store.First id extension ∧ name = s!"{id}.{extension}" := by
  have found : store.fileFor id = .ok name ↔ (fileNames id).find? store.isFile = some name := by
    unfold fileFor
    rw [if_neg (by simp [accepted])]
    split
    · next first same => simp [same]
    · next none => simp [none]
  rw [found, fileNames, List.find?_map, Option.map_eq_some_iff]
  refine exists_congr fun extension => and_congr ?_ eq_comm
  rw [List.find?_eq_some_iff_append]
  constructor
  · rintro ⟨here, tried, untried, split, before⟩
    refine ⟨here, tried, untried, split, fun earlier member => ?_⟩
    simpa using before earlier member
  · rintro ⟨here, tried, untried, split, before⟩
    refine ⟨here, tried, untried, split, fun earlier member => ?_⟩
    simpa using before earlier member

theorem load_of_no_file {store : DirectoryStore} {id : String} (accepted : refuses id = false)
    (none : ¬ ∃ extension, store.First id extension) :
    store.load id = .error (.config (.scriptNotFoundIn id store.path)) := by
  have missing : store.fileFor id = .error (.scriptNotFoundIn id store.path) := by
    cases found : store.fileFor id with
    | ok name =>
      obtain ⟨extension, first, _⟩ := (fileFor_eq_iff accepted).mp found
      exact absurd ⟨extension, first⟩ none
    | error error =>
      unfold fileFor at found
      rw [if_neg (by simp [accepted])] at found
      split at found
      · cases found
      · exact found.symm
  unfold load
  rw [missing]

/-- The script of an id is what is read from the first file there is. -/
theorem load_of_first {store : DirectoryStore} {id extension : String}
    (accepted : refuses id = false) (first : store.First id extension) :
    store.load id = Script.load store.listing s!"{id}.{extension}" := by
  have found := (fileFor_eq_iff accepted).mpr ⟨extension, first, rfl⟩
  obtain ⟨named, whole, shown⟩ := of_accepted accepted
  obtain ⟨some, single, plain⟩ := of_extension first.known
  have last := FilePath.fileName_withExtension whole single
  have stem : FileName.stem s!"{id}.{extension}" = id := by
    rw [FileName.stem, FileName.parts_withExtension named some plain]
  unfold load
  rw [found]
  dsimp only
  cases read : Script.load store.listing s!"{id}.{extension}" with
  | error error => rfl
  | ok script =>
    obtain ⟨text, _, made⟩ := Script.load_eq_ok_iff.mp read
    have same := Script.id_of_ofFile made
    rw [last, stem] at same
    rw [← same]
    rfl

end DirectoryStore

end BrowserScript

import Mathlib
import BrowserScript.CommandLine.Plan
import BrowserScript.Proofs.Store.Directory

/-!
# Looking up the given script

The command line is given the path of a script and reads it. The run then looks the script up by its
id in the directory of that path, where a file beside it may come first. Main definition: `Nested`.
Main results: `find?_in_directory`, `store_eq_scripts`, `looked_up_by_extension`,
`given_not_always_looked_up`.
-/

set_option autoImplicit false

namespace BrowserScript

namespace CommandLine

open FilePath

theorem intercalate_isEmpty {front : List String} {last : String} (named : last ≠ "")
    (whole : ∀ piece ∈ front ++ [last], '/' ∉ piece.toList) :
    ("/".intercalate (front ++ [last])).isEmpty = false := by
  have parts := splitOn_intercalate whole (by simp)
  rw [Bool.eq_false_iff, ne_eq, isEmpty_iff parts]
  exact fun empty => named empty.2

/-- The directory of a path leads where the path leads that has lost its last name. -/
theorem directoryOf_leads {path name : String} {front : List String}
    (parts : path.splitOn "/" = front ++ [name]) (named : name ≠ "")
    (proper : name = "." → front = []) (relative : front.head? ≠ some "") :
    ((directoryOf path).splitOn "/").head? ≠ some "" ∧
      components (directoryOf path) =
        front.filter fun piece => !(piece.isEmpty || piece == ".") := by
  have above := parent_eq parts named proper relative
  have same := filter_trimmed front.reverse
  have inside := trimmed_suffix front.reverse
  unfold directoryOf components
  cases kept : trimmed front.reverse with
  | nil =>
    rw [kept, List.filter_reverse, List.filter_nil, eq_comm, List.reverse_eq_nil_iff] at same
    have here : ".".splitOn "/" = ["."] := splitOn_name (by decide)
    rw [above, kept, same]
    change (".".splitOn "/").head? ≠ some "" ∧ (".".splitOn "/").filter _ = []
    rw [here]
    decide
  | cons last up =>
    rw [kept] at above same inside
    rw [List.reverse_cons] at above
    have before : up.reverse ++ [last] <+: front := by
      simpa using List.reverse_prefix.mpr inside
    have whole : ∀ piece ∈ up.reverse ++ [last], '/' ∉ piece.toList := by
      intro piece member
      have listed : piece ∈ path.splitOn "/" := by
        rw [parts]
        exact List.mem_append_left _ (before.subset member)
      exact whole_of_mem_splitOn listed
    have cut := splitOn_intercalate whole (by simp)
    have some := intercalate_isEmpty (head_trimmed kept) whole
    simp only [above, some, Bool.false_eq_true, if_false, cut]
    constructor
    · obtain ⟨rest, rfl⟩ := before
      rwa [List.head?_append_of_ne_nil _ (by simp)] at relative
    · rw [← List.reverse_inj, ← List.filter_reverse, ← List.filter_reverse, ← same]
      simp

/-- A file is found again under its name in the directory of its path. -/
theorem find?_in_directory {tree : FileTree} {path text : String}
    (found : tree.find? path = some (.file text)) (named : fileName path ≠ ".") :
    tree.find? (directoryOf path ++ "/" ++ fileName path) = some (.file text) := by
  obtain ⟨front, name, parts⟩ : ∃ front name, path.splitOn "/" = front ++ [name] :=
    ⟨_, _, (List.dropLast_append_getLast (splitOn_ne_nil path)).symm⟩
  obtain ⟨relative, some, proper, place, leads, held⟩ := (FileTree.find?_eq_file_iff parts).mp found
  have last := fileName_eq parts some proper
  obtain ⟨start, above⟩ := directoryOf_leads parts some proper relative
  have listed : name ∈ path.splitOn "/" := by simp [parts]
  have whole := whole_of_mem_splitOn listed
  have again : (directoryOf path ++ "/" ++ name).splitOn "/" =
      (directoryOf path).splitOn "/" ++ [name] := by
    rw [splitOn_join, splitOn_name whole]
  rw [last] at named ⊢
  refine (FileTree.find?_eq_file_iff again).mpr
    ⟨start, some, fun dot => absurd dot named, place, ?_, held⟩
  rw [components_eq parts some] at leads
  rw [components_eq again some]
  unfold components at above
  rwa [above]

/-- A file is found under its name in the directory of its path. -/
def Nested (files : String → Option FileEntry) : Prop :=
  ∀ path text, files path = some (.file text) → fileName path ≠ "." →
    files (directoryOf path ++ "/" ++ fileName path) = some (.file text)

theorem nested_find? (tree : FileTree) : Nested tree.find? := fun _ _ => find?_in_directory

theorem directoryOf_name {name : String} (whole : '/' ∉ name.toList) (named : name ≠ "") :
    directoryOf name = "." := by
  have parts : name.splitOn "/" = [] ++ [name] := splitOn_name whole
  rw [directoryOf, parent_eq parts named (fun _ => rfl) (by simp)]
  rfl

theorem directoryOf_ne_empty (path : String) : directoryOf path ≠ "" := by
  unfold directoryOf
  dsimp only
  split
  · decide
  · next some => simpa using some

/-- The scripts in the directory of the given one. -/
def Assignment.scripts (assignment : Assignment) (files : String → Option FileEntry) :
    DirectoryStore :=
  ⟨assignment.directory, fun name => files (assignment.directory ++ "/" ++ name)⟩

section

variable {files : String → Option FileEntry} {program : String} {arguments : List String}
  {assignment : Assignment}

theorem given_of_planFor {given : Arguments}
    (planned : planFor files given = .ok (.run assignment)) :
    Script.load files given.script = .ok assignment.script ∧
      assignment.directory = directoryOf given.script := by
  unfold planFor at planned
  cases bound : Variables.ofArguments given.params with
  | error reason =>
    rw [bound] at planned
    cases planned
  | ok params =>
    rw [bound] at planned
    cases read : Script.load files given.script with
    | error reason =>
      rw [read] at planned
      cases planned
    | ok script =>
      rw [read] at planned
      cases checking : given.check with
      | true =>
        rw [checking] at planned
        cases planned
      | false =>
        rw [checking] at planned
        cases loaded : loadSettings files given.settings with
        | error reason =>
          rw [loaded] at planned
          cases planned
        | ok settings =>
          rw [loaded] at planned
          cases planned
          exact ⟨rfl, rfl⟩

/-- A run is about the script at the given path. -/
theorem given_of_plan (planned : plan program files arguments = .run assignment) :
    ∃ given, Arguments.parse arguments = .ok given ∧
      Script.load files given.script = .ok assignment.script ∧
      assignment.directory = directoryOf given.script := by
  unfold plan at planned
  split at planned
  · cases planned
  · next given parsed =>
    split at planned
    · next whole =>
      rw [planned] at whole
      exact ⟨given, parsed, given_of_planFor whole⟩
    · cases planned

/-- The store of a run in a tree of files. -/
theorem store_eq_scripts {tree : FileTree}
    (planned : plan program files arguments = .run assignment) :
    assignment.store tree = assignment.scripts tree.find? := by
  obtain ⟨given, _, _, directory⟩ := given_of_plan planned
  have some : assignment.directory.isEmpty = false := by
    simpa [directory] using directoryOf_ne_empty given.script
  unfold Assignment.store Assignment.scripts
  congr 1
  funext name
  unfold FileTree.listing
  rw [some]
  rfl

/-- The script that is looked up for a run is in the first file there is for its id. If that file
has the extension of the given one, it is the given one. Otherwise the run is about another script,
or there is none to be run. -/
theorem looked_up_by_extension (nested : Nested files)
    (planned : plan program files arguments = .run assignment)
    (accepted : DirectoryStore.refuses assignment.script.id = false) :
    ∃ given text, Arguments.parse arguments = .ok given ∧
      (assignment.scripts files).listing (fileName given.script) = some (.file text) ∧
      Script.ofFile (fileName given.script) text = .ok assignment.script ∧
      (∀ extension, (assignment.scripts files).First assignment.script.id extension →
        (assignment.scripts files).load assignment.script.id =
          if FileName.extension (fileName given.script) = some extension then .ok assignment.script
          else Script.load (assignment.scripts files).listing
            s!"{assignment.script.id}.{extension}") ∧
      ((¬ ∃ extension, (assignment.scripts files).First assignment.script.id extension) →
        (assignment.scripts files).load assignment.script.id =
          .error (.config
            (.scriptNotFoundIn assignment.script.id (directoryOf given.script)))) := by
  obtain ⟨given, parsed, read, directory⟩ := given_of_plan planned
  obtain ⟨text, here, made⟩ := Script.load_eq_ok_iff.mp read
  have stem := Script.id_of_ofFile made
  have named : fileName given.script ≠ "." := by
    intro dot
    rw [stem, dot] at accepted
    revert accepted
    decide
  have found : (assignment.scripts files).listing (fileName given.script) = some (.file text) := by
    have inside := nested given.script text here named
    rwa [← directory] at inside
  refine ⟨given, text, parsed, found, made, ?_, ?_⟩
  · intro extension first
    rw [DirectoryStore.load_of_first accepted first]
    split
    · next same =>
      have name := FileName.eq_of_extension same
      obtain ⟨named, whole, shown⟩ := DirectoryStore.of_accepted accepted
      obtain ⟨some, single, plain⟩ := DirectoryStore.of_extension first.known
      rw [← stem] at name
      refine Script.load_eq_ok_iff.mpr ⟨text, name ▸ found, ?_⟩
      rw [fileName_withExtension whole single, ← name]
      exact made
    · rfl
  · intro none
    rw [DirectoryStore.load_of_no_file accepted none, ← directory]
    rfl

end

/-! ## A file beside the given one -/

/-- A script in YAML, and beside it one of the same name in JSON. -/
def siblings : FileTree :=
  ⟨[(["flow.yaml"], .file "title: Given"),
    (["flow.json"], .file "\x7b\"title\":\"Sibling\"\x7d")]⟩

def yamlScript : Script := ⟨"flow", "Given", none, .empty, []⟩

def jsonScript : Script := ⟨"flow", "Sibling", none, .empty, []⟩

/-- The run for the one in YAML. -/
def yamlRun : Assignment := ⟨yamlScript, .empty, {}, none, none, false, false, false, "."⟩

theorem refuses_flow : DirectoryStore.refuses yamlRun.script.id = false := by decide

theorem parse_flow : Arguments.parse ["flow.yaml"] =
    .ok ⟨"flow.yaml", [], none, none, false, none, false, false, 0, false⟩ := by
  cbv

theorem plan_flow : plan "eoka-pilot" siblings.find? ["flow.yaml"] = .run yamlRun := by
  have here : siblings.find? "flow.yaml" = some (.file "title: Given") :=
    FileTree.find?_of_name (by decide) (by decide) rfl rfl
  have name : fileName "flow.yaml" = "flow.yaml" := fileName_name (by decide) (by decide)
  have made : Script.ofFile "flow.yaml" "title: Given" = .ok yamlScript := by cbv
  have read : Script.load siblings.find? "flow.yaml" = .ok yamlScript :=
    Script.load_eq_ok_iff.mpr ⟨_, here, name.symm ▸ made⟩
  have directory : directoryOf "flow.yaml" = "." := directoryOf_name (by decide) (by decide)
  unfold plan planFor
  rw [parse_flow]
  dsimp only
  rw [read, directory]
  rfl

theorem listing_flow : (yamlRun.scripts siblings.find?).listing "flow.json" =
    some (.file "\x7b\"title\":\"Sibling\"\x7d") := by
  have here : siblings.find? "flow.json" = some (.file "\x7b\"title\":\"Sibling\"\x7d") :=
    FileTree.find?_of_name (by decide) (by decide) rfl rfl
  have name : fileName "flow.json" = "flow.json" := fileName_name (by decide) (by decide)
  have directory : directoryOf "flow.json" = "." := directoryOf_name (by decide) (by decide)
  have inside := find?_in_directory here (by rw [name]; decide)
  rwa [name, directory] at inside

theorem first_flow : (yamlRun.scripts siblings.find?).First "flow" "json" := by
  refine ⟨?_, [], ["yaml", "yml"], rfl, by simp⟩
  unfold DirectoryStore.isFile
  exact listing_flow ▸ rfl

theorem load_flow :
    Script.load (yamlRun.scripts siblings.find?).listing "flow.json" = .ok jsonScript := by
  have name : fileName "flow.json" = "flow.json" := fileName_name (by decide) (by decide)
  have made : Script.ofFile "flow.json" "\x7b\"title\":\"Sibling\"\x7d" = .ok jsonScript := by
    cbv
  exact Script.load_eq_ok_iff.mpr ⟨_, listing_flow, name.symm ▸ made⟩

theorem json_looked_up_for_yaml :
    Nested siblings.find? ∧ plan "eoka-pilot" siblings.find? ["flow.yaml"] = .run yamlRun ∧
      DirectoryStore.refuses yamlRun.script.id = false ∧
      (yamlRun.scripts siblings.find?).load yamlRun.script.id = .ok jsonScript := by
  obtain ⟨given, text, parsed, _, _, looked, _⟩ :=
    looked_up_by_extension (nested_find? siblings) plan_flow refuses_flow
  rw [parse_flow] at parsed
  cases parsed
  have name : fileName "flow.yaml" = "flow.yaml" := fileName_name (by decide) (by decide)
  have other : FileName.extension (fileName "flow.yaml") ≠ some "json" := by
    rw [name]
    decide
  refine ⟨nested_find? siblings, plan_flow, refuses_flow, (looked "json" first_flow).trans ?_⟩
  rw [if_neg other]
  exact load_flow

/-- The script that is looked up for a run need not be the one at the given path. -/
theorem given_not_always_looked_up :
    ¬ ∀ (tree : FileTree) (program : String) (arguments : List String) (assignment : Assignment),
      plan program tree.find? arguments = .run assignment →
      DirectoryStore.refuses assignment.script.id = false →
      (assignment.store tree).load assignment.script.id = .ok assignment.script := by
  intro always
  have same := always siblings "eoka-pilot" ["flow.yaml"] yamlRun plan_flow refuses_flow
  rw [store_eq_scripts plan_flow, DirectoryStore.load_of_first refuses_flow first_flow] at same
  have both : yamlScript = jsonScript := Except.ok.inj (same.symm.trans load_flow)
  exact absurd (congrArg Script.title both) (by decide)

end CommandLine

end BrowserScript

import Mathlib
import BrowserScript.Proofs.Run.Transcript
import BrowserScript.Proofs.Store.Directory

/-!
# Lookups stay in their directory

Looking up a script is a series of questions about files. Whatever they are answered, they are about
names directly inside the directory, and about none at all for an id that could lead elsewhere. Main
definitions: `FileQuestion`, `DirectoryStore.lookUp`, `DirectoryStore.Asks`,
`DirectoryStore.Confined`. Main results: `DirectoryStore.lookUp_asks`,
`DirectoryStore.load_of_answers`, `DirectoryStore.load_confined`.
-/

set_option autoImplicit false

namespace BrowserScript

/-! ## Questions about files -/

/-- What can be asked about a name in a directory. -/
inductive FileQuestion where
  | isFile (name : String)
  /-- The text of a file, if it can be read. -/
  | text (name : String)
  deriving DecidableEq, Repr

namespace FileQuestion

def Answer : FileQuestion → Type
  | isFile _ => Bool
  | text _ => Option String

def name : FileQuestion → String
  | isFile name | text name => name

end FileQuestion

abbrev FileProgram (α : Type) : Type := Program FileQuestion FileQuestion.Answer α

abbrev FileLog : Type := List (Program.Entry FileQuestion FileQuestion.Answer)

def isFile? (name : String) : FileProgram Bool := Program.request (FileQuestion.isFile name)

def text? (name : String) : FileProgram (Option String) :=
  Program.request (FileQuestion.text name)

namespace Listing

variable {listing other : Listing}

/-- The text of the file of a name. -/
def text? (listing : Listing) (name : String) : Option String :=
  match listing name with
  | some (.file text) => some text
  | _ => none

theorem text?_eq_some_iff {name text : String} :
    listing.text? name = some text ↔ listing name = some (.file text) := by
  unfold text?
  split
  · next held => simp [held]
  · next other =>
    constructor
    · exact nofun
    · exact fun held => absurd held (other text)

/-- What there is to be said about a name in a directory. -/
def answer (listing : Listing) : (question : FileQuestion) → question.Answer
  | .isFile name => (listing.text? name).isSome
  | .text name => listing.text? name

/-- An answer depends only on the file that it is about. -/
theorem answer_congr {question : FileQuestion}
    (same : listing.text? question.name = other.text? question.name) :
    listing.answer question = other.answer question := by
  cases question with
  | isFile name => exact congrArg Option.isSome same
  | text name => exact same

end Listing

/-- All answers are those of the directory. -/
def FileLog.AnsweredBy (log : FileLog) (listing : Listing) : Prop :=
  ∀ entry ∈ log, entry.answer = listing.answer entry.request

theorem FileLog.answeredBy_iff {log past : FileLog} {listing : Listing} :
    Program.Follows (fun _ => listing.answer) past log ↔ log.AnsweredBy listing := by
  induction log generalizing past with
  | nil => simp [Program.Follows, FileLog.AnsweredBy]
  | cons entry rest induction =>
    rw [Program.Follows, induction, FileLog.AnsweredBy, FileLog.AnsweredBy, List.forall_mem_cons]

namespace DirectoryStore

open Program (Transcript)

variable {store : DirectoryStore} {directory id extension : String} {candidates : List String}
  {log : FileLog} {result : Except LoadError Script}

/-! ## A lookup as questions -/

/-- The script of an id in a text, read by the extension of the file. -/
def readAs (id extension text : String) : Except LoadError Script :=
  (if extension = "json" then Script.parse text else Script.parseYaml text).map
    fun script => script.withId id

/-- Looks for a file with one of the extensions and reads the first there is. -/
def tryFiles (directory id : String) : List String → FileProgram (Except LoadError Script)
  | [] => return .error (.config (.scriptNotFoundIn id directory))
  | extension :: rest => do
    if ← isFile? s!"{id}.{extension}" then
      match ← text? s!"{id}.{extension}" with
      | some text => return readAs id extension text
      | none => return .error .file
    else tryFiles directory id rest

def lookUp (directory id : String) : FileProgram (Except LoadError Script) :=
  if refuses id then return .error (.config (.invalidScriptId id))
  else tryFiles directory id extensions

/-- What is asked about files that are not there. -/
def missed (id : String) (tried : List String) : FileLog :=
  tried.map fun extension => ⟨.isFile s!"{id}.{extension}", false⟩

/-- What is asked about a file that is there. -/
def found (id extension : String) (text : Option String) : FileLog :=
  [⟨.isFile s!"{id}.{extension}", true⟩, ⟨.text s!"{id}.{extension}", text⟩]

/-- A lookup goes through the candidates in order. It reads the first that is a file, and no
other. -/
inductive Asks (directory id : String) (candidates : List String) :
    FileLog → Except LoadError Script → Prop
  | missing : Asks directory id candidates (missed id candidates)
      (.error (.config (.scriptNotFoundIn id directory)))
  | unreadable {tried untried : List String} {extension : String}
      (split : candidates = tried ++ extension :: untried) :
      Asks directory id candidates (missed id tried ++ found id extension none) (.error .file)
  | reads {tried untried : List String} {extension : String}
      (split : candidates = tried ++ extension :: untried) (text : String) :
      Asks directory id candidates (missed id tried ++ found id extension (some text))
        (readAs id extension text)

theorem Asks.after (asks : Asks directory id candidates log result) (extension : String) :
    Asks directory id (extension :: candidates)
      (⟨.isFile s!"{id}.{extension}", false⟩ :: log) result := by
  cases asks with
  | missing => exact .missing
  | @unreadable tried untried other split =>
    have split : extension :: candidates = (extension :: tried) ++ other :: untried := by
      rw [split, List.cons_append]
    exact .unreadable split
  | @reads tried untried other split text =>
    have split : extension :: candidates = (extension :: tried) ++ other :: untried := by
      rw [split, List.cons_append]
    exact .reads split text

theorem tryFiles_asks (run : Transcript (tryFiles directory id candidates) log result) :
    Asks directory id candidates log result := by
  induction candidates generalizing log with
  | nil =>
    obtain ⟨rfl, rfl⟩ := Transcript.pure_iff.mp run
    exact .missing
  | cons extension rest induction =>
    obtain ⟨here, opening, later, asked, onward, rfl⟩ := Transcript.bind_iff.mp run
    obtain rfl := Transcript.request_iff.mp asked
    cases here with
    | false => exact (induction onward).after extension
    | true =>
      obtain ⟨text, opening, last, asked, ended, rfl⟩ := Transcript.bind_iff.mp onward
      obtain rfl := Transcript.request_iff.mp asked
      have split : extension :: rest = [] ++ extension :: rest := rfl
      cases text with
      | none =>
        obtain ⟨rfl, rfl⟩ := Transcript.pure_iff.mp ended
        exact .unreadable split
      | some text =>
        obtain ⟨rfl, rfl⟩ := Transcript.pure_iff.mp ended
        exact .reads split text

/-- Whatever it is answered, a lookup asks about the files of its id only. -/
theorem lookUp_asks (accepted : refuses id = false)
    (run : Transcript (lookUp directory id) log result) :
    Asks directory id extensions log result := by
  unfold lookUp at run
  rw [if_neg (by simp [accepted])] at run
  exact tryFiles_asks run

theorem lookUp_refused (refused : refuses id = true)
    (run : Transcript (lookUp directory id) log result) :
    log = [] ∧ result = .error (.config (.invalidScriptId id)) := by
  unfold lookUp at run
  rw [if_pos refused] at run
  exact Transcript.pure_iff.mp run

/-- The names that are asked about. -/
theorem Asks.names (asks : Asks directory id candidates log result) :
    ∀ entry ∈ log, ∃ extension ∈ candidates, entry.request.name = s!"{id}.{extension}" := by
  have tried : ∀ {tried : List String}, tried ⊆ candidates → ∀ entry ∈ missed id tried,
      ∃ extension ∈ candidates, entry.request.name = s!"{id}.{extension}" := by
    intro tried among entry member
    obtain ⟨extension, known, rfl⟩ := List.mem_map.mp member
    exact ⟨extension, among known, rfl⟩
  have read : ∀ {tried untried : List String} {extension : String} {text : Option String},
      candidates = tried ++ extension :: untried →
        ∀ entry ∈ missed id tried ++ found id extension text,
          ∃ extension ∈ candidates, entry.request.name = s!"{id}.{extension}" := by
    intro before untried extension text split entry member
    rcases List.mem_append.mp member with member | member
    · exact tried (split ▸ List.subset_append_left _ _) entry member
    · have known : extension ∈ candidates := by simp [split]
      rcases List.mem_pair.mp member with rfl | rfl
      · exact ⟨extension, known, rfl⟩
      · exact ⟨extension, known, rfl⟩
  cases asks with
  | missing => exact tried (List.Subset.refl _)
  | unreadable split => exact read split
  | reads split => exact read split

/-! ## Loading as a lookup -/

theorem load_refused (refused : refuses id = true) :
    store.load id = .error (.config (.invalidScriptId id)) := by
  unfold load fileFor
  rw [if_pos refused]

/-- A file with an extension of scripts is read by it. -/
theorem ofFile_withExtension (named : id ≠ "") (known : extension ∈ extensions) (text : String) :
    Script.ofFile s!"{id}.{extension}" text = readAs id extension text := by
  obtain ⟨some, _, plain⟩ := of_extension known
  have parts := FileName.parts_withExtension named some plain
  have renamed : ∀ read : Except LoadError Script,
      (read >>= fun script => pure (script.withId id)) =
        read.map fun script => script.withId id := by
    rintro (_ | _) <;> rfl
  unfold Script.ofFile readAs FileName.extension FileName.stem
  rw [parts]
  dsimp only
  simp only [extensions, List.mem_cons, List.not_mem_nil, or_false] at known
  rcases known with rfl | rfl | rfl
  · exact renamed _
  · exact renamed _
  · exact renamed _

theorem load_of_first_file (accepted : refuses id = false) (first : store.First id extension)
    {text : String} (here : store.listing s!"{id}.{extension}" = some (.file text)) :
    store.load id = readAs id extension text := by
  obtain ⟨named, whole, _⟩ := of_accepted accepted
  obtain ⟨_, single, _⟩ := of_extension first.known
  rw [load_of_first accepted first, Script.load, here]
  dsimp only
  rw [FilePath.fileName_withExtension whole single, ofFile_withExtension named first.known]

theorem isFile_eq (store : DirectoryStore) (name : String) :
    store.isFile name = (store.listing.text? name).isSome := by
  unfold isFile Listing.text?
  cases store.listing name with
  | none => rfl
  | some entry => cases entry <;> rfl

/-- Loading is looking up with the answers of the directory. -/
theorem load_of_answers (store : DirectoryStore)
    (run : Transcript (lookUp store.path id) log result)
    (answered : log.AnsweredBy store.listing) : result = store.load id := by
  cases accepted : refuses id with
  | true =>
    obtain ⟨_, rfl⟩ := lookUp_refused accepted run
    exact (load_refused accepted).symm
  | false =>
    -- What has been missed is no file.
    have absent : ∀ {tried : List String}, (∀ entry ∈ missed id tried,
        entry.answer = store.listing.answer entry.request) →
          ∀ extension ∈ tried, store.isFile s!"{id}.{extension}" = false := by
      intro tried told extension member
      rw [isFile_eq]
      exact (told _ (List.mem_map_of_mem member)).symm
    have asks := lookUp_asks accepted run
    cases asks with
    | missing =>
      refine (load_of_no_file accepted ?_).symm
      rintro ⟨extension, first⟩
      have none := absent answered extension first.known
      rw [first.here] at none
      cases none
    | @unreadable tried untried extension split =>
      obtain ⟨_, here⟩ := List.forall_mem_append.mp answered
      have told : true = (store.listing.text? s!"{id}.{extension}").isSome :=
        here _ List.mem_cons_self
      have silent : none = store.listing.text? s!"{id}.{extension}" :=
        here _ (List.mem_cons_of_mem _ List.mem_cons_self)
      rw [← silent] at told
      cases told
    | @reads tried untried extension split text =>
      obtain ⟨before, here⟩ := List.forall_mem_append.mp answered
      have told : true = (store.listing.text? s!"{id}.{extension}").isSome :=
        here _ List.mem_cons_self
      have read : some text = store.listing.text? s!"{id}.{extension}" :=
        here _ (List.mem_cons_of_mem _ List.mem_cons_self)
      have first : store.First id extension :=
        ⟨(isFile_eq store _).trans told.symm, tried, untried, split, absent before⟩
      exact (load_of_first_file accepted first (Listing.text?_eq_some_iff.mp read.symm)).symm

/-- What is not among the names of an id makes no difference to it. -/
theorem load_congr (listing other : Listing)
    (same : ∀ extension ∈ extensions,
      listing.text? s!"{id}.{extension}" = other.text? s!"{id}.{extension}") :
    load ⟨directory, listing⟩ id = load ⟨directory, other⟩ id := by
  obtain ⟨⟨log, result⟩, ⟨run, follows⟩, -⟩ :=
    Transcript.exists_unique (lookUp directory id) (fun _ => listing.answer) []
  have answered := FileLog.answeredBy_iff.mp follows
  have answeredToo : FileLog.AnsweredBy log other := by
    intro entry member
    rw [answered entry member]
    cases accepted : refuses id with
    | true =>
      obtain ⟨rfl, _⟩ := lookUp_refused accepted run
      cases member
    | false =>
      obtain ⟨extension, known, named⟩ := (lookUp_asks accepted run).names entry member
      exact Listing.answer_congr (named ▸ same extension known)
  have first := load_of_answers ⟨directory, listing⟩ run answered
  exact first.symm.trans (load_of_answers ⟨directory, other⟩ run answeredToo)

theorem id_of_load {script : Script} (loaded : store.load id = .ok script) : script.id = id := by
  unfold load at loaded
  split at loaded
  · cases loaded
  · next name _ =>
    cases read : Script.load store.listing name with
    | error error =>
      rw [read] at loaded
      cases loaded
    | ok found =>
      rw [read] at loaded
      cases loaded
      rfl

/-! ## Names directly inside -/

/-- An id that could lead out of its directory, or to a hidden file. -/
def Improper (id : String) : Prop :=
  id = "" ∨ id.toList.head? = some '.' ∨ '/' ∈ id.toList ∨ '\\' ∈ id.toList

theorem refuses_iff : refuses id = true ↔ Improper id := by
  simp only [refuses, Improper, Bool.or_eq_true, String.isEmpty_iff, List.any_eq_true, beq_iff_eq]
  constructor
  · rintro ((empty | ⟨c, member, rfl | rfl⟩) | hidden)
    · exact .inl empty
    · exact .inr (.inr (.inl member))
    · exact .inr (.inr (.inr member))
    · exact .inr (.inl hidden)
  · rintro (empty | hidden | slash | backslash)
    · exact .inl (.inl empty)
    · exact .inr hidden
    · exact .inl (.inr ⟨_, slash, .inl rfl⟩)
    · exact .inl (.inr ⟨_, backslash, .inr rfl⟩)

/-- The names of an id lead nowhere but into the directory. -/
theorem plain_name (accepted : refuses id = false) (known : extension ∈ extensions) :
    '/' ∉ s!"{id}.{extension}".toList ∧ s!"{id}.{extension}" ∉ ["", ".", ".."] := by
  obtain ⟨named, whole, _⟩ := of_accepted accepted
  obtain ⟨some, single, _⟩ := of_extension known
  have letters := FileName.toList_withExtension id extension
  constructor
  · rw [letters]
    simp [whole, single]
  · intro short
    have length := congrArg List.length letters
    have before : 0 < id.toList.length := List.length_pos_of_ne_nil (by simpa using named)
    have behind : 0 < extension.toList.length := List.length_pos_of_ne_nil (by simpa using some)
    rw [List.length_append, List.length_cons] at length
    have within : s!"{id}.{extension}".toList.length ≤ 2 := by
      simp only [List.mem_cons, List.not_mem_nil, or_false] at short
      rcases short with same | same | same <;> rw [same] <;> decide
    omega

/-- What a lookup keeps to, whatever the id and the files. -/
structure Confined (store : DirectoryStore) (id : String) : Prop where
  /-- For an improper id nothing is asked. -/
  refused : Improper id → store.load id = .error (.config (.invalidScriptId id)) ∧
    ∀ log result, Transcript (lookUp store.path id) log result → log = []
  /-- For other ids the names with an extension are asked about in order, whatever is answered, and
  the first that is a file is read. -/
  asks : ¬ Improper id → ∀ log result, Transcript (lookUp store.path id) log result →
    Asks store.path id ["json", "yaml", "yml"] log result
  /-- Those names lead to what is directly inside the directory. -/
  inside : ¬ Improper id → ∀ extension ∈ ["json", "yaml", "yml"], ∀ (tree : FileTree) text,
    tree.listing store.path s!"{id}.{extension}" = some (.file text) ↔
      tree.Holds store.path s!"{id}.{extension}" text
  /-- The lookup has one course, and the script is what it comes to. -/
  comes : ∃ log : FileLog, Transcript (lookUp store.path id) log (store.load id) ∧
    log.AnsweredBy store.listing ∧
      ∀ (other : FileLog) result, Transcript (lookUp store.path id) other result →
        other.AnsweredBy store.listing → other = log ∧ result = store.load id
  /-- Other files make no difference. -/
  depends : ∀ other : Listing, (∀ extension ∈ ["json", "yaml", "yml"], ∀ text,
    store.listing s!"{id}.{extension}" = some (.file text) ↔
      other s!"{id}.{extension}" = some (.file text)) →
        load ⟨store.path, other⟩ id = store.load id
  reads : ¬ Improper id → ∀ extension, store.First id extension →
    ∃ text, store.listing s!"{id}.{extension}" = some (.file text) ∧
      store.load id = readAs id extension text
  missing : ¬ Improper id → (¬ ∃ extension, store.First id extension) →
    store.load id = .error (.config (.scriptNotFoundIn id store.path))
  named : ∀ script, store.load id = .ok script → script.id = id

theorem load_confined (store : DirectoryStore) (id : String) : Confined store id := by
  have accepts : ¬ Improper id → refuses id = false := by
    rw [← refuses_iff, Bool.not_eq_true]
    exact fun accepted => accepted
  have texts : ∀ {listing : Listing} {name : String}, (listing.text? name).isSome = true →
      ∃ text, listing name = some (.file text) := by
    intro listing name some
    obtain ⟨text, held⟩ := Option.isSome_iff_exists.mp some
    exact ⟨text, Listing.text?_eq_some_iff.mp held⟩
  constructor
  case refused =>
    intro improper
    have refused := refuses_iff.mpr improper
    exact ⟨load_refused refused, fun log result run => (lookUp_refused refused run).1⟩
  case asks => exact fun proper log result run => lookUp_asks (accepts proper) run
  case inside =>
    intro proper extension known tree text
    obtain ⟨whole, single⟩ := plain_name (accepts proper) known
    exact FileTree.listing_eq_file_iff whole single
  case comes =>
    obtain ⟨⟨log, result⟩, ⟨run, follows⟩, unique⟩ :=
      Transcript.exists_unique (lookUp store.path id) (fun _ => store.listing.answer) []
    have answered := FileLog.answeredBy_iff.mp follows
    obtain rfl : result = store.load id := load_of_answers store run answered
    refine ⟨log, run, answered, fun other result again answeredToo => ?_⟩
    exact Prod.mk.inj (unique (other, result) ⟨again, FileLog.answeredBy_iff.mpr answeredToo⟩)
  case depends =>
    intro other same
    refine (load_congr store.listing other fun extension known => ?_).symm
    refine Option.ext fun text => ?_
    rw [Listing.text?_eq_some_iff, Listing.text?_eq_some_iff]
    exact same extension known text
  case reads =>
    intro proper extension first
    have here := first.here
    rw [isFile_eq] at here
    obtain ⟨text, held⟩ := texts here
    exact ⟨text, held, load_of_first_file (accepts proper) first held⟩
  case missing => exact fun proper none => load_of_no_file (accepts proper) none
  case named => exact fun script loaded => id_of_load loaded

/-! ## A directory with a file outside -/

open FilePath

/-- A directory of scripts with a directory and a file in it, and a file outside. -/
def shelf : FileTree :=
  ⟨[(["secret.json"], .file "secret"), (["scripts", "v1.2.json"], .directory),
    (["scripts", "v1.2.yaml"], .file "\x7b\x7d")]⟩

def shelved : DirectoryStore := ⟨"scripts", shelf.listing "scripts"⟩

theorem components_scripts : components "scripts" = ["scripts"] := by
  rw [components, splitOn_name (by decide)]
  decide

theorem shelf_outside : shelved.listing "../secret.json" = some (.file "secret") := by
  have parts : "scripts/../secret.json".splitOn "/" = ["scripts", ".."] ++ ["secret.json"] := by
    have joined : "scripts/../secret.json" = "scripts" ++ "/" ++ ".." ++ "/" ++ "secret.json" := by
      decide
    rw [joined, splitOn_join, splitOn_join, splitOn_name (by decide), splitOn_name (by decide),
      splitOn_name (by decide)]
    rfl
  have single : components "scripts/../secret.json" = ["scripts", "..", "secret.json"] := by
    rw [components, parts]
    decide
  have leads : shelf.resolve [] (components "scripts/../secret.json") = some ["secret.json"] := by
    rw [single]
    rfl
  exact (FileTree.find?_eq_file_iff parts).mpr ⟨by decide, by decide, by decide, _, leads, rfl⟩

theorem shelf_inside : shelved.listing "v1.2.yaml" = some (.file "\x7b\x7d") := by
  refine (FileTree.listing_eq_file_iff (by decide) (by decide)).mpr
    ⟨by decide, ["scripts"], ?_, rfl, rfl⟩
  rw [components_scripts]
  rfl

theorem first_on_shelf : shelved.First "v1.2" "yaml" := by
  refine ⟨?_, ["json"], ["yml"], rfl, ?_⟩
  · rw [isFile_eq]
    exact Option.isSome_iff_exists.mpr ⟨_, Listing.text?_eq_some_iff.mpr shelf_inside⟩
  · intro earlier member
    obtain rfl := List.mem_singleton.mp member
    rw [isFile_eq, Option.isSome_eq_false_iff, Option.isNone_iff_eq_none,
      Option.eq_none_iff_forall_ne_some]
    intro text held
    obtain ⟨_, place, leads, _, here⟩ :=
      (FileTree.listing_eq_file_iff (by decide) (by decide)).mp (Listing.text?_eq_some_iff.mp held)
    rw [components_scripts] at leads
    cases leads
    cases here

/-- A file outside is not reached by an id that would lead to it. An id with dots in it is kept, and
a directory of the first name is passed over. -/
theorem load_confined_on_shelf :
    shelved.listing "../secret.json" = some (.file "secret") ∧
      shelved.load "../secret" = .error (.config (.invalidScriptId "../secret")) ∧
      ∃ script, shelved.load "v1.2" = .ok script ∧ script.id = "v1.2" := by
  have outside : Improper "../secret" := refuses_iff.mp (by decide)
  have proper : ¬ Improper "v1.2" := refuses_iff.not.mp (by decide)
  obtain ⟨text, held, read⟩ := (load_confined shelved "v1.2").reads proper "yaml" first_on_shelf
  obtain rfl : "\x7b\x7d" = text := by
    have same := shelf_inside.symm.trans held
    cases same
    rfl
  have made : readAs "v1.2" "yaml" "\x7b\x7d" = .ok ⟨"v1.2", "", none, .empty, []⟩ := by cbv
  rw [made] at read
  exact ⟨shelf_outside, ((load_confined shelved "../secret").refused outside).1, _, read,
    (load_confined shelved "v1.2").named _ read⟩

end DirectoryStore

end BrowserScript

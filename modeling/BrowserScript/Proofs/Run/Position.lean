import BrowserScript.Proofs.Lists
import BrowserScript.Proofs.Run.Standing
import BrowserScript.Proofs.Script.Validity

/-!
# Where in its script a run is

A path leads from the top of a script to one of its steps, and its text names no other step. What a
run notes says which steps it has begun and not completed since. Main definitions: `Step.at?`,
`Run.running?`, `Run.Account.Unfinished`, `Run.Account.Below`. Main results:
`StepPath.text_injective`, `Run.running?_as_written`, `Run.Account.Below.spares`,
`Run.Account.Closes.append`.
-/

set_option autoImplicit false

namespace BrowserScript

/-! ## Paths -/

namespace StepPath

/-- A path leads into the step at another path. -/
def Into (outer inner : StepPath) : Prop := ∃ index rest, inner = outer ++ index :: rest

variable {path inner place : StepPath}

theorem not_into_self : ¬ path.Into path := by
  rintro ⟨index, rest, same⟩
  simpa using congrArg List.length same

theorem Into.ne_nil (into : path.Into inner) : inner ≠ [] := by
  rintro rfl
  obtain ⟨index, rest, same⟩ := into
  simp at same

theorem Into.outer {index : Nat} (into : Into (path ++ [index]) inner) : path.Into inner := by
  obtain ⟨next, rest, rfl⟩ := into
  exact ⟨index, next :: rest, List.append_assoc _ _ _⟩

/-- On the way to a place in a nested step one comes to that step first. -/
theorem Into.nested {index : Nat} (into : path.Into inner) (onWay : inner <+: place)
    (nested : path ++ [index] <+: place) :
    inner = path ++ [index] ∨ Into (path ++ [index]) inner := by
  obtain ⟨next, rest, rfl⟩ := into
  have step : path ++ [next] <+: place := by
    refine List.IsPrefix.trans ⟨rest, ?_⟩ onWay
    rw [List.append_assoc, List.singleton_append]
  have same : path ++ [next] = path ++ [index] :=
    (List.prefix_of_prefix_length_le step nested (by simp)).eq_of_length (by simp)
  obtain rfl : next = index := by simpa using same
  cases rest with
  | nil => exact .inl rfl
  | cons further rest => exact .inr ⟨further, rest, by rw [List.append_assoc]; rfl⟩

theorem text_toList (path : StepPath) :
    path.text.toList = List.intercalate ['.'] (path.map fun index => Nat.toDigits 10 index) := by
  have dot : ".".toList = ['.'] := rfl
  have digits : (String.toList ∘ toString) = fun index : Nat => Nat.toDigits 10 index := by
    funext index
    rw [Function.comp_apply, Nat.toString_eq_ofList_toDigits, String.toList_ofList]
  rw [text, String.toList_intercalate, List.map_map, dot, digits]

/-- Different steps have different texts. -/
theorem text_injective {first second : StepPath} (some : first ≠ []) (also : second ≠ [])
    (same : first.text = second.text) : first = second := by
  have undotted : ∀ path : StepPath, ∀ digits ∈ path.map fun index => Nat.toDigits 10 index,
      '.' ∉ digits := by
    intro path digits member dot
    obtain ⟨index, -, rfl⟩ := List.mem_map.mp member
    exact absurd (Nat.isDigit_of_mem_toDigits (by decide) (by decide) dot) (by decide)
  have letters := congrArg (fun text => text.toList.splitOn '.') same
  simp only [text_toList] at letters
  rw [List.splitOn_intercalate '.' (undotted first) (by simpa using some),
    List.splitOn_intercalate '.' (undotted second) (by simpa using also)] at letters
  refine List.map_injective_iff.mpr (fun a b equal => ?_) letters
  have numbers := congrArg (fun digits => Nat.ofDigitChars 10 digits 0) equal
  simpa using numbers

end StepPath

/-! ## Steps at paths -/

namespace Step

/-- The step at a path that leads on from a step. -/
def at? : StepPath → Step → Option Step
  | [], step => some step
  | index :: rest, step => step.children[index]?.bind (at? rest)

theorem at?_append (path rest : StepPath) (step : Step) :
    step.at? (path ++ rest) = (step.at? path).bind (at? rest) := by
  induction path generalizing step with
  | nil => rfl
  | cons index path induction =>
    rw [List.cons_append, at?, at?, Option.bind_assoc]
    exact Option.bind_congr fun child _ => induction child

theorem mapTexts_eq_map (f : String → String) (steps : List Step) :
    mapTexts f steps = steps.map (mapText f) := by
  induction steps with
  | nil => rfl
  | cons step rest induction => rw [mapTexts, List.map_cons, induction]

theorem children_mapText (f : String → String) (step : Step) :
    (step.mapText f).children = step.children.map (mapText f) := by
  obtain ⟨action, condition, loop, timeoutMs, source⟩ := step
  cases action with
  | steps children => exact mapTexts_eq_map f children
  | _ => rfl

theorem kind_mapText (f : String → String) (step : Step) : (step.mapText f).kind = step.kind := by
  rw [kind, action_mapText, Action.kind_mapText, kind]

/-- Rewriting the texts of a step rewrites those of every step inside it and moves none. -/
theorem at?_mapText (f : String → String) (path : StepPath) (step : Step) :
    (step.mapText f).at? path = (step.at? path).map (mapText f) := by
  induction path generalizing step with
  | nil => rfl
  | cons index rest induction =>
    rw [at?, at?, children_mapText, List.getElem?_map]
    cases step.children[index]? with
    | none => rfl
    | some child => exact induction child

end Step

namespace Script

/-- The step at a path. -/
def stepAt? (script : Script) : StepPath → Option Step
  | [] => none
  | index :: rest => script.steps[index]?.bind (Step.at? rest)

end Script

namespace Run

/-! ## Running steps -/

/-- The step that runs at a path. Steps are filled as a whole, from the top. -/
def running? (vars : Variables) (steps : List Step) : StepPath → Option Step
  | [] => none
  | index :: rest =>
    steps[index]?.bind fun top => (top.fill vars).1.toOption.bind (Step.at? rest)

section

variable {vars : Variables} {steps : List Step} {path : StepPath} {step : Step} {index : Nat}

theorem running?_top {top : Step} (found : steps[index]? = some top)
    (filled : (top.fill vars).1 = .ok step) : running? vars steps [index] = some step := by
  rw [running?, found, Option.bind_some, filled]
  rfl

theorem running?_child {child : Step} (runs : running? vars steps path = some step)
    (inside : step.children[index]? = some child) :
    running? vars steps (path ++ [index]) = some child := by
  cases path with
  | nil => cases runs
  | cons first rest =>
    obtain ⟨top, found, runs⟩ := Option.bind_eq_some_iff.mp runs
    obtain ⟨filled, fills, runs⟩ := Option.bind_eq_some_iff.mp runs
    refine Option.bind_eq_some_iff.mpr ⟨top, found, ?_⟩
    refine Option.bind_eq_some_iff.mpr ⟨filled, fills, ?_⟩
    change filled.at? (rest ++ [index]) = some child
    rw [Step.at?_append, runs, Option.bind_some, Step.at?, inside]
    rfl

/-- If the steps of a script have been read, what runs at a path is the step that is written there,
but for its texts. -/
theorem running?_as_written {script : Script}
    (read : ∀ step ∈ script.steps, ∃ source, Step.ofJson source = .ok step)
    (runs : running? vars script.steps path = some step) :
    ∃ written, script.stepAt? path = some written ∧
      step = written.mapText (Template.filled vars) := by
  cases path with
  | nil => cases runs
  | cons index rest =>
    obtain ⟨top, found, runs⟩ := Option.bind_eq_some_iff.mp runs
    obtain ⟨filled, fills, runs⟩ := Option.bind_eq_some_iff.mp runs
    obtain ⟨source, wasRead⟩ := read top (List.mem_of_getElem? found)
    rw [Step.fill_eq_mapText wasRead] at fills
    cases fills
    rw [Step.at?_mapText] at runs
    obtain ⟨written, inside, rfl⟩ := Option.map_eq_some_iff.mp runs
    refine ⟨written, ?_, rfl⟩
    rw [Script.stepAt?, found]
    exact inside

end

/-! ## Unfinished steps -/

/-- The path of the step that something begun belongs to. -/
def Activation.path : Activation → StepPath
  | whole => []
  | step path | iteration path _ => path

/-- If a note begins or completes a step, the step is inside the one at the path; and nothing is
attached to. -/
def Note.Below (path : StepPath) : Note → Prop
  | begins (.step inner) => path.Into inner
  | asks _ (.progress event) => ∃ inner, path.Into inner ∧ event.path = inner.text
  | asks _ (.attach _) => False
  | _ => True

/-- A note neither begins nor completes the step at the path. -/
def Note.Spares (path : StepPath) (note : Note) : Prop :=
  note ≠ begins (.step path) ∧
    ∀ behalf event, note = asks behalf (.progress event) → event.path ≠ path.text

namespace Account

def Below (path : StepPath) (account : Account) : Prop :=
  ∀ entry ∈ account, entry.request.Below path

def Spares (path : StepPath) (account : Account) : Prop :=
  ∀ entry ∈ account, entry.request.Spares path

/-- The step at the path has been begun, and since it was begun last it has not been completed. -/
def Unfinished (account : Account) (path : StepPath) : Prop :=
  ∃ before since : Account, account = before ++ ⟨.begins (.step path), ()⟩ :: since ∧
    since.Spares path

/-- Every report of progress completes a step that is unfinished. -/
def Closes (account : Account) : Prop :=
  ∀ (before : Account) behalf event answer after,
    account = before ++ ⟨.asks behalf (.progress event), answer⟩ :: after →
      ∃ path, event.path = path.text ∧ before.Unfinished path

variable {path : StepPath} {account first second : Account}

theorem Below.nil : Below path [] := fun _ member => absurd member List.not_mem_nil

theorem Below.append (early : first.Below path) (late : second.Below path) :
    Below path (first ++ second) := List.forall_mem_append.mpr ⟨early, late⟩

/-- What is done inside a step leaves the step itself alone. -/
theorem Below.spares (below : account.Below path) (some : path ≠ []) : account.Spares path := by
  rintro ⟨note, answer⟩ member
  have inside := below _ member
  constructor
  · rintro rfl
    exact StepPath.not_into_self inside
  · rintro behalf event rfl same
    obtain ⟨inner, into, named⟩ := inside
    obtain rfl := StepPath.text_injective into.ne_nil some (named.symm.trans same)
    exact StepPath.not_into_self into

/-- What is done inside a nested step is done inside the one around it. -/
theorem Below.outer {index : Nat} (below : account.Below (path ++ [index])) :
    account.Below path := by
  rintro ⟨note, answer⟩ member
  have inside := below _ member
  match note with
  | .begins (.step inner) => exact StepPath.Into.outer inside
  | .asks _ (.progress event) =>
    obtain ⟨inner, into, named⟩ := inside
    exact ⟨inner, into.outer, named⟩
  | .asks _ (.attach _) => exact inside.elim
  | .begins .whole | .begins (.iteration _ _) | .checks _ | .asks _ (.page _ _) | .asks _ .now
  | .asks _ (.sleep _) | .asks _ .isCancelled | .asks _ (.recover _) | .asks _ (.acquire _)
  | .asks _ (.release _) | .asks _ (.detach _) => exact trivial

theorem Spares.append (early : first.Spares path) (late : second.Spares path) :
    Spares path (first ++ second) := List.forall_mem_append.mpr ⟨early, late⟩

theorem Unfinished.append (unfinished : first.Unfinished path) (spares : second.Spares path) :
    Unfinished (first ++ second) path := by
  obtain ⟨before, since, rfl, still⟩ := unfinished
  exact ⟨before, since ++ second, by simp, still.append spares⟩

theorem Unfinished.prepend (unfinished : second.Unfinished path) (first : Account) :
    Unfinished (first ++ second) path := by
  obtain ⟨before, since, rfl, still⟩ := unfinished
  exact ⟨first ++ before, since, by simp, still⟩

theorem Closes.append (early : first.Closes) (late : second.Closes) : Closes (first ++ second) := by
  intro before behalf event answer after same
  rcases split_cons same with ⟨middle, rfl, _⟩ | ⟨middle, rfl, rfl⟩
  · exact early before behalf event answer middle rfl
  · obtain ⟨path, completed, unfinished⟩ := late middle behalf event answer after rfl
    exact ⟨path, completed, unfinished.prepend first⟩

theorem Closes.silent (silent : ∀ entry ∈ account, ∀ behalf event,
    entry.request ≠ .asks behalf (.progress event)) : account.Closes := by
  rintro before behalf event answer after rfl
  exact absurd rfl (silent _ (List.mem_append_right before List.mem_cons_self) behalf event)

theorem Closes.nil : Closes [] := .silent fun _ member => absurd member List.not_mem_nil

theorem Closes.single {entry : Program.Entry Note Note.Answer}
    (silent : ∀ behalf event, entry.request ≠ .asks behalf (.progress event)) : Closes [entry] :=
  .silent (List.forall_mem_singleton.mpr silent)

/-- A report may complete what is unfinished. -/
theorem Closes.complete {behalf : Option Activation} {event : ProgressEvent}
    {answer : (Note.asks behalf (.progress event)).Answer} (closes : account.Closes)
    (named : event.path = path.text) (unfinished : account.Unfinished path) :
    Closes (account ++ [⟨.asks behalf (.progress event), answer⟩]) := by
  intro before other told given after same
  rcases split_cons same with ⟨middle, rfl, _⟩ | ⟨middle, rfl, last⟩
  · exact closes before other told given middle rfl
  · rcases List.cons_eq_append_iff.mp last with ⟨rfl, only⟩ | ⟨rest, rfl, nothing⟩
    · cases only
      rw [List.append_nil]
      exact ⟨path, named, unfinished⟩
    · cases rest <;> cases nothing

end Account

end Run

end BrowserScript

import BrowserScript.Proofs.Script.Filling
import BrowserScript.Run.Steps

/-!
# Running filled steps

The steps of a script can always be filled, so a run of steps that were read is a run of the same
steps with their texts filled: the failure of a step that cannot be read again does not occur. Main
definition: `runFilled`. Main results: `runSteps_eq_runFilled`, `filled_as_read`.
-/

set_option autoImplicit false

namespace BrowserScript.Run

/-- Runs top-level steps from the given index on, each with its texts filled. -/
def runFilled (context : RunContext) (index : Nat) : List Step → Running Unit
  | [] => return ()
  | step :: rest => do
    if ← ask isCancelled then throw (.cancelled index)
    modify fun state => { state with index }
    runStep context [index] (step.mapText (Template.filled context.vars))
    if context.settings.stepDelayMs ≠ 0 && !rest.isEmpty then
      ask (sleep context.settings.stepDelayMs.toNat)
    runFilled context (index + 1) rest

theorem runSteps_eq_runFilled (context : RunContext) (steps : List Step) (index : Nat)
    (read : ∀ step ∈ steps, ∃ source, Step.ofJson source = .ok step) :
    runSteps context index steps = runFilled context index steps := by
  induction steps generalizing index with
  | nil => rfl
  | cons step rest induction =>
    obtain ⟨source, here⟩ := read step (.head _)
    have later := induction (index + 1) fun other member => read other (.tail _ member)
    simp only [runSteps, runFilled, Step.fill_eq_mapText here, later]

/-- A step that was read is filled by filling each of its texts, and all else stays. Reading the
filled source again gives the same step, whether or not a text changes. So nothing can keep a step
from being run. -/
theorem filled_as_read :
    (∀ (source : Json) (step : Step) (vars : Variables), Step.ofJson source = .ok step →
      (step.fill vars).1 = .ok (step.mapText (Template.filled vars)) ∧
      Step.ofJson (Template.substituteJson vars source).1 = (step.fill vars).1 ∧
      step.source = source ∧ (step.mapText (Template.filled vars)).skeleton = step.skeleton) ∧
    ∀ (context : RunContext) (index : Nat) (steps : List Step),
      (∀ step ∈ steps, ∃ source, Step.ofJson source = .ok step) →
      runSteps context index steps = runFilled context index steps := by
  constructor
  · intro source step vars read
    have filled := Step.fill_eq_mapText read vars
    have again := Step.ofJson_mapText (Template.filled_sparesPlain vars) source step read
    rw [← Template.substituteJson_fst] at again
    exact ⟨filled, again.trans filled.symm, Step.source_of_ofJson read,
      Step.skeleton_mapText _ step⟩
  · intro context index steps read
    exact runSteps_eq_runFilled context steps index read

/-- The condition of a loop is filled as the address inside it is, and what its value looks like
does not matter: it is not filled again. -/
theorem nested_step_filled_as_read :
    let inner : String → Json := fun url => .obj [("type", .str "navigate"), ("url", .str url)]
    let outer : String → Json → Json := fun condition inside => .obj
      [("loop", .obj [("condition", .str condition), ("iterations", .num (.natural 2))]),
        ("steps", .arr [inside]), ("type", .str "steps")]
    let visit : String → Step := fun url => .mk (.navigate url) none none none (inner url)
    let twice : String → String → Step := fun condition url =>
      .mk (.steps [visit url]) none (some ⟨2, 0, some (.expression condition)⟩) none
        (outer condition (inner url))
    let written := twice "\x7b\x7bgo\x7d\x7d" "\x7b\x7bsite\x7d\x7d"
    let vars := Variables.ofList [("go", "\x7b\x7bsite\x7d\x7d"), ("site", "https://example.com/")]
    let context : RunContext := ⟨"tour", vars, {}⟩
    Step.ofJson written.source = .ok written ∧
      (written.fill vars).1 = .ok (twice "\x7b\x7bsite\x7d\x7d" "https://example.com/") ∧
      runSteps context 0 [written] = runFilled context 0 [written] := by
  intro inner outer visit twice written vars context
  have read : Step.ofJson written.source = .ok written := rfl
  have condition : Template.filled vars "\x7b\x7bgo\x7d\x7d" = "\x7b\x7bsite\x7d\x7d" :=
    Template.filled_of_hole (p := ⟨[], ['g', 'o'], []⟩) rfl rfl
  have url : Template.filled vars "\x7b\x7bsite\x7d\x7d" = "https://example.com/" :=
    Template.filled_of_hole (p := ⟨[], ['s', 'i', 't', 'e'], []⟩) rfl rfl
  have spares := Template.filled_sparesPlain vars
  have filled : written.mapText (Template.filled vars) =
      twice "\x7b\x7bsite\x7d\x7d" "https://example.com/" := by
    simp only [written, twice, visit, outer, inner, Step.mapText, Action.mapText, Step.mapTexts,
      Option.map_some, Option.map_none, Loop.mapText, Condition.mapText, Json.mapText,
      Json.mapMembers, Json.mapItems, spares "navigate" rfl, spares "steps" rfl, condition, url]
  have reads : ∀ step ∈ [written], ∃ source, Step.ofJson source = .ok step := by
    intro step member
    rw [List.mem_singleton.mp member]
    exact ⟨written.source, read⟩
  exact ⟨read, filled ▸ (filled_as_read.1 written.source written vars read).1,
    filled_as_read.2 context 0 [written] reads⟩

end BrowserScript.Run

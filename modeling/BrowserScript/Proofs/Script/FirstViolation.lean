import BrowserScript.Proofs.Run.Position

/-!
# The first violation of a script

What a script has to keep to are rules on its steps, each at its own path. Paths in their
lexicographic order are the steps in the order of the document: a step comes before all inside it,
and all inside it before the next. Main definitions: `Step.Breaks`, `Script.Finds`. Main results:
`Script.stepsViolation_finds`, `Script.checked_in_document_order`.
-/

set_option autoImplicit false

namespace BrowserScript

/-- The selectors of an action that has to have some, with the type that messages give it. -/
def Action.aim? : Action → Option (StepType × Selectors)
  | .click how => some (.click, how.selectors)
  | .type selectors _ => some (.type, selectors)
  | .hover selectors => some (.hover, selectors)
  | .waitForElement selectors _ => some (.waitForElement, selectors)
  | _ => none

/-- The step at the path breaks a rule. Its list of steps, if it has one, lies inside the step
itself and the steps around it, which are as many as the path has indices. -/
inductive Step.Breaks (path : StepPath) (step : Step) : ConfigError → Prop
  | tooDeep {children : List Step} (holds : step.action = .steps children)
      (deep : maxNestingDepth < path.length) : Breaks path step .nestedTooDeep
  | noAddress (visits : step.action = .navigate "") : Breaks path step .navigateNeedsUrl
  | noSelector {stepType : StepType} {selectors : Selectors}
      (aims : step.action.aim? = some (stepType, selectors))
      (bare : ∀ alternative ∈ selectors.alternatives, alternative = []) :
      Breaks path step (.needsSelectors stepType)

namespace Script

/-- The rule that a step with a path of the given length breaks. -/
def fault? (length : Nat) (step : Step) : Option ConfigError :=
  match step.action with
  | .steps _ => if maxNestingDepth < length then some .nestedTooDeep else none
  | action => lacking action

theorem lacking_eq_some_iff {action : Action} {rule : ConfigError} :
    lacking action = some rule ↔
      (action = .navigate "" ∧ rule = .navigateNeedsUrl) ∨
        ∃ stepType selectors, action.aim? = some (stepType, selectors) ∧
          (∀ alternative ∈ selectors.alternatives, alternative = []) ∧
            rule = .needsSelectors stepType := by
  have aimed : ∀ (stepType : StepType) (selectors : Selectors),
      (if selectors.isEmpty then some (ConfigError.needsSelectors stepType) else none) = some rule ↔
        (∀ alternative ∈ selectors.alternatives, alternative = []) ∧
          rule = .needsSelectors stepType := by
    intro stepType selectors
    simp [Selectors.isEmpty, eq_comm (a := rule)]
  cases action with
  | navigate url => simp [lacking, Action.aim?, eq_comm (a := rule)]
  | click | type | hover | waitForElement => simp [lacking, Action.aim?, aimed]
  | scroll | waitForExpression | setViewport | key | steps => simp [lacking, Action.aim?]

theorem fault?_eq_some_iff {path : StepPath} {step : Step} {rule : ConfigError} :
    fault? path.length step = some rule ↔ step.Breaks path rule := by
  constructor
  · intro fault
    unfold fault? at fault
    split at fault
    · next children holds =>
      split at fault
      · next deep =>
        cases fault
        exact .tooDeep holds deep
      · cases fault
    · rcases lacking_eq_some_iff.mp fault with
        ⟨visits, rfl⟩ | ⟨stepType, selectors, aims, bare, rfl⟩
      · exact .noAddress visits
      · exact .noSelector aims bare
  · intro breaks
    cases breaks with
    | tooDeep holds deep => simp only [fault?, holds, if_pos deep]
    | noAddress visits =>
      simp only [fault?, visits]
      exact lacking_eq_some_iff.mpr (.inl ⟨rfl, rfl⟩)
    | @noSelector stepType selectors aims bare =>
      have lacks := lacking_eq_some_iff.mpr (.inr ⟨stepType, selectors, aims, bare, rfl⟩)
      unfold fault?
      split
      · next children holds =>
        rw [holds] at aims
        cases aims
      · exact lacks

/-! ## Searching a tree -/

/-- Looking at all paths in order, one comes to this first. -/
def Finds (found : StepPath → Option ConfigError) : Option ConfigError → Prop
  | none => ∀ path, found path = none
  | some rule => ∃ path, found path = some rule ∧ ∀ earlier < path, found earlier = none

namespace Finds

variable {found : StepPath → Option ConfigError} {first rest result : Option ConfigError}

/-- Nothing comes before the top. -/
theorem top {rule : ConfigError} (here : found [] = some rule) : Finds found (some rule) :=
  ⟨[], here, fun _ earlier => absurd earlier (List.not_lt_nil _)⟩

theorem leaf (nothing : ∀ index path, found (index :: path) = none) : Finds found (found []) := by
  cases here : found [] with
  | none =>
    intro path
    cases path with
    | nil => exact here
    | cons index path => exact nothing index path
  | some rule => exact top here

/-- All of the first child comes before the other children. -/
theorem cons (above : found [] = none) (child : Finds (fun path => found (0 :: path)) first)
    (others : Finds (fun | [] => none | index :: path => found ((index + 1) :: path)) rest) :
    Finds found (first.or rest) := by
  cases first with
  | some rule =>
    obtain ⟨path, here, before⟩ := child
    refine ⟨0 :: path, here, fun earlier sooner => ?_⟩
    cases earlier with
    | nil => exact above
    | cons index inner =>
      rcases List.cons_lt_cons_iff.mp sooner with less | ⟨rfl, less⟩
      · exact absurd less (Nat.not_lt_zero index)
      · exact before inner less
  | none =>
    cases rest with
    | none =>
      intro path
      match path with
      | [] => exact above
      | 0 :: inner => exact child inner
      | (index + 1) :: inner => exact others (index :: inner)
    | some rule =>
      obtain ⟨path, here, before⟩ := others
      cases path with
      | nil => cases here
      | cons position inside =>
        refine ⟨(position + 1) :: inside, here, fun earlier sooner => ?_⟩
        match earlier with
        | [] => exact above
        | 0 :: inner => exact child inner
        | (index + 1) :: inner =>
          refine before (index :: inner) (List.cons_lt_cons_iff.mpr ?_)
          rcases List.cons_lt_cons_iff.mp sooner with less | ⟨same, less⟩
          · exact .inl (Nat.lt_of_succ_lt_succ less)
          · exact .inr ⟨Nat.succ.inj same, less⟩

theorem eq_none_iff (finds : Finds found result) : result = none ↔ ∀ path, found path = none := by
  cases result with
  | none => exact iff_of_true rfl finds
  | some rule =>
    obtain ⟨path, here, -⟩ := finds
    refine iff_of_false (Option.some_ne_none rule) fun nothing => ?_
    rw [nothing path] at here
    cases here

/-- There is at most one first place. -/
theorem eq_some_iff (finds : Finds found result) (rule : ConfigError) :
    result = some rule ↔
      ∃ path, found path = some rule ∧ ∀ earlier < path, found earlier = none := by
  constructor
  · rintro rfl
    exact finds
  · rintro ⟨path, here, before⟩
    cases result with
    | none =>
      rw [finds path] at here
      cases here
    | some other =>
      obtain ⟨place, there, sooner⟩ := finds
      rcases lt_trichotomy path place with less | rfl | greater
      · rw [sooner path less] at here
        cases here
      · exact there.symm.trans here
      · rw [before place greater] at there
        cases there

end Finds

/-! ## The check as a search -/

/-- What is broken at a path that leads on from a step inside `depth` lists. -/
def faultIn (depth : Nat) (step : Step) (path : StepPath) : Option ConfigError :=
  (step.at? path).bind (fault? (depth + 1 + path.length))

/-- What is broken at a path into steps inside `depth` lists. -/
def faultAmong (depth : Nat) (steps : List Step) : StepPath → Option ConfigError
  | [] => none
  | index :: path => steps[index]?.bind fun step => faultIn depth step path

theorem faultIn_cons (depth : Nat) (step : Step) (index : Nat) (path : StepPath) :
    faultIn depth step (index :: path) = faultAmong (depth + 1) step.children (index :: path) := by
  have length : depth + 1 + (path.length + 1) = depth + 1 + 1 + path.length := by omega
  simp only [faultIn, faultAmong, Step.at?, List.length_cons, Option.bind_assoc, length]

mutual

theorem stepViolation_finds (depth : Nat) (step : Step) :
    Finds (faultIn depth step) (stepViolation depth step) := by
  cases step with
  | mk action condition loop timeoutMs source => exact actionViolation_finds depth action _ _ _ _

theorem actionViolation_finds (depth : Nat) (action : Action) (condition : Option Condition)
    (loop : Option Loop) (timeoutMs : Option UInt64) (source : Json) :
    Finds (faultIn depth (.mk action condition loop timeoutMs source))
      (actionViolation depth action) := by
  cases action with
  | steps children =>
    have inside := stepsViolation_finds (depth + 1) children
    by_cases deep : maxNestingDepth < depth + 1
    · rw [actionViolation, if_pos deep]
      exact .top (if_pos deep)
    · have same : faultIn depth (.mk (.steps children) condition loop timeoutMs source) =
          faultAmong (depth + 1) children := by
        funext path
        cases path with
        | nil => exact if_neg deep
        | cons index path => exact faultIn_cons depth _ index path
      rw [actionViolation, if_neg deep, same]
      exact inside
  | navigate | click | type | hover | scroll | waitForElement | waitForExpression | setViewport
  | key => exact .leaf fun _ _ => rfl

theorem stepsViolation_finds (depth : Nat) (steps : List Step) :
    Finds (faultAmong depth steps) (stepsViolation depth steps) := by
  cases steps with
  | nil =>
    intro path
    cases path <;> rfl
  | cons step rest =>
    have child := stepViolation_finds depth step
    have later := stepsViolation_finds depth rest
    refine .cons rfl child ?_
    convert later using 2 with path
    cases path <;> rfl

end

theorem faultAmong_top (script : Script) (path : StepPath) :
    faultAmong 0 script.steps path = (script.stepAt? path).bind (fault? path.length) := by
  cases path with
  | nil => rfl
  | cons index path =>
    have length : 0 + 1 + path.length = path.length + 1 := by omega
    simp only [faultAmong, faultIn, stepAt?, List.length_cons, Option.bind_assoc, length]

theorem faultAmong_eq_some_iff {script : Script} {path : StepPath} {rule : ConfigError} :
    faultAmong 0 script.steps path = some rule ↔
      ∃ step, script.stepAt? path = some step ∧ step.Breaks path rule := by
  simp only [faultAmong_top, Option.bind_eq_some_iff, fault?_eq_some_iff]

theorem faultAmong_eq_none_iff {script : Script} {path : StepPath} :
    faultAmong 0 script.steps path = none ↔
      ∀ step, script.stepAt? path = some step → ∀ rule, ¬ step.Breaks path rule := by
  rw [Option.eq_none_iff_forall_ne_some]
  constructor
  · intro nothing step here rule breaks
    exact nothing rule (faultAmong_eq_some_iff.mpr ⟨step, here, breaks⟩)
  · intro kept rule fault
    obtain ⟨step, here, breaks⟩ := faultAmong_eq_some_iff.mp fault
    exact kept step here rule breaks

/-- The rules in full, for a step that keeps to all of them. -/
theorem keeps_iff {path : StepPath} {step : Step} :
    (∀ rule, ¬ step.Breaks path rule) ↔
      (∀ children, step.action = .steps children → path.length ≤ maxNestingDepth) ∧
        (∀ url, step.action = .navigate url → url ≠ "") ∧
          ∀ stepType selectors, step.action.aim? = some (stepType, selectors) →
            ∃ alternative ∈ selectors.alternatives, alternative ≠ [] := by
  constructor
  · intro kept
    refine ⟨fun children holds => ?_, fun url visits => ?_, fun stepType selectors aims => ?_⟩
    · exact Nat.le_of_not_lt fun deep => kept _ (.tooDeep holds deep)
    · rintro rfl
      exact kept _ (.noAddress visits)
    · by_contra bare
      push Not at bare
      exact kept _ (.noSelector aims bare)
  · rintro ⟨shallow, addressed, aimed⟩ rule breaks
    cases breaks with
    | tooDeep holds deep => exact Nat.not_lt.mpr (shallow _ holds) deep
    | noAddress visits => exact addressed _ visits rfl
    | noSelector aims bare =>
      obtain ⟨alternative, member, some⟩ := aimed _ _ aims
      exact some (bare alternative member)

/-- A script is accepted as it is exactly if no list in it lies inside more lists than allowed,
every `navigate` step has an address, and every step that aims at an element has a selector.
Otherwise the error is the rule broken by the first step, in the order of the document, that breaks
one. -/
theorem checked_in_document_order (script : Script) :
    (script.checked = .ok script ↔ ∀ path step, script.stepAt? path = some step →
      (∀ children, step.action = .steps children → path.length ≤ maxNestingDepth) ∧
        (∀ url, step.action = .navigate url → url ≠ "") ∧
          ∀ stepType selectors, step.action.aim? = some (stepType, selectors) →
            ∃ alternative ∈ selectors.alternatives, alternative ≠ []) ∧
    ∀ error, script.checked = .error error ↔ ∃ path step rule, error = .config rule ∧
      script.stepAt? path = some step ∧ step.Breaks path rule ∧
        ∀ earlier < path, ∀ other, script.stepAt? earlier = some other →
          ∀ rule, ¬ other.Breaks earlier rule := by
  have finds : Finds (faultAmong 0 script.steps) script.violation? :=
    stepsViolation_finds 0 script.steps
  constructor
  · have accepted : script.checked = .ok script ↔ script.violation? = none := by
      rw [checked_eq_ok_iff]
      exact and_iff_right rfl
    rw [accepted, finds.eq_none_iff]
    simp only [faultAmong_eq_none_iff, keeps_iff]
  · intro error
    have refused : script.checked = .error error ↔
        ∃ rule, script.violation? = some rule ∧ error = .config rule := by
      unfold checked
      cases script.violation? <;> simp [eq_comm]
    simp only [refused, finds.eq_some_iff, faultAmong_eq_some_iff, faultAmong_eq_none_iff]
    constructor
    · rintro ⟨rule, ⟨path, ⟨step, here, breaks⟩, before⟩, rfl⟩
      exact ⟨path, step, rule, rfl, here, breaks, before⟩
    · rintro ⟨path, step, rule, rfl, here, breaks, before⟩
      exact ⟨rule, ⟨path, ⟨step, here, breaks⟩, before⟩, rfl⟩

end Script

end BrowserScript

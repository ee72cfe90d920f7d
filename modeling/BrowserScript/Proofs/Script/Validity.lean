import Mathlib
import BrowserScript.Proofs.Script.Filling
import BrowserScript.Script.Basic

/-!
# Validity of filled steps

A script is checked once, before its placeholders are filled. The check comes down to a rule for
each step by itself (`Step.Meets`), given how many lists it stands in. Filling a step changes neither
the lists nor whether selectors are there, so of what is checked only the address of a `navigate`
step can be lost. Main definitions: `Step.nodes`, `Step.Meets`. Main results:
`Script.stepViolation_eq_none_iff`, `Script.filled_stays_valid`.
-/

set_option autoImplicit false

namespace BrowserScript

mutual

/-- The step and all steps inside it, each with the number of lists it stands in. -/
def Step.nodes (depth : Nat) : Step → List (Nat × Step)
  | .mk action condition loop timeoutMs source =>
    (depth, .mk action condition loop timeoutMs source) :: Action.nodes depth action

def Action.nodes (depth : Nat) : Action → List (Nat × Step)
  | .steps children => Step.nodesOf (depth + 1) children
  | _ => []

def Step.nodesOf (depth : Nat) : List Step → List (Nat × Step)
  | [] => []
  | step :: rest => Step.nodes depth step ++ Step.nodesOf depth rest

end

theorem Step.mem_nodesOf {depth : Nat} {steps : List Step} {step : Step} {node : Nat × Step}
    (member : step ∈ steps) (inside : node ∈ step.nodes depth) :
    node ∈ Step.nodesOf depth steps := by
  induction member with
  | head => exact List.mem_append_left _ inside
  | tail _ _ induction => exact List.mem_append_right _ induction

/-- What is checked of a step by itself: it may not hold a list beyond the limit, and it lacks
nothing. -/
structure Step.Meets (depth : Nat) (step : Step) : Prop where
  nested : step.kind = .nestedSteps → depth < maxNestingDepth
  complete : Script.lacking step.action = none

namespace Script

mutual

theorem stepViolation_eq_none_iff (depth : Nat) (step : Step) :
    stepViolation depth step = none ↔ ∀ node ∈ step.nodes depth, node.2.Meets node.1 := by
  cases step with
  | mk action condition loop timeoutMs source =>
    have inside := actionViolation_eq_none_iff depth action
    simp only [stepViolation, Step.nodes, List.forall_mem_cons, inside]
    constructor
    · intro met
      exact ⟨⟨met.1, met.2.1⟩, met.2.2⟩
    · intro met
      exact ⟨met.1.nested, met.1.complete, met.2⟩

theorem actionViolation_eq_none_iff (depth : Nat) (action : Action) :
    actionViolation depth action = none ↔
      (action.kind = .nestedSteps → depth < maxNestingDepth) ∧ lacking action = none ∧
        ∀ node ∈ action.nodes depth, node.2.Meets node.1 := by
  cases action with
  | steps children =>
    have inside := stepsViolation_eq_none_iff (depth + 1) children
    simp only [actionViolation, Action.kind, Action.nodes, lacking, true_and, forall_const,
      ← inside]
    split
    · next deep => simp; omega
    · next shallow => simp; omega
  | navigate | click | type | hover | scroll | waitForElement | waitForExpression | setViewport
  | key => simp [actionViolation, Action.kind, Action.nodes]

theorem stepsViolation_eq_none_iff (depth : Nat) (steps : List Step) :
    stepsViolation depth steps = none ↔
      ∀ node ∈ Step.nodesOf depth steps, node.2.Meets node.1 := by
  cases steps with
  | nil => simp [stepsViolation, Step.nodesOf]
  | cons step rest =>
    have first := stepViolation_eq_none_iff depth step
    have others := stepsViolation_eq_none_iff depth rest
    simp only [stepsViolation, Step.nodesOf, List.forall_mem_append, Option.or_eq_none_iff, first,
      others]

end

end Script

/-! ## Filling -/

mutual

theorem Step.nodes_mapText (f : String → String) (depth : Nat) (step : Step) :
    (step.mapText f).nodes depth =
      (step.nodes depth).map fun node => (node.1, node.2.mapText f) := by
  cases step with
  | mk action condition loop timeoutMs source =>
    simp only [Step.mapText, Step.nodes, List.map_cons]
    rw [Action.nodes_mapText f depth action]

theorem Action.nodes_mapText (f : String → String) (depth : Nat) (action : Action) :
    (action.mapText f).nodes depth =
      (action.nodes depth).map fun node => (node.1, node.2.mapText f) := by
  cases action with
  | steps children => exact Step.nodesOf_mapTexts f (depth + 1) children
  | navigate | click | type | hover | scroll | waitForElement | waitForExpression | setViewport
  | key => rfl

theorem Step.nodesOf_mapTexts (f : String → String) (depth : Nat) (steps : List Step) :
    Step.nodesOf depth (Step.mapTexts f steps) =
      (Step.nodesOf depth steps).map fun node => (node.1, node.2.mapText f) := by
  cases steps with
  | nil => rfl
  | cons step rest =>
    simp only [Step.mapTexts, Step.nodesOf, List.map_append]
    rw [Step.nodes_mapText f depth step, Step.nodesOf_mapTexts f depth rest]

end

theorem Step.action_mapText (f : String → String) (step : Step) :
    (step.mapText f).action = step.action.mapText f := by
  cases step
  rfl

theorem Action.kind_mapText (f : String → String) (action : Action) :
    (action.mapText f).kind = action.kind := by
  cases action <;> rfl

namespace Script

/-- An action that lacks nothing may come to lack an address, and nothing else. -/
theorem lacking_mapText {f : String → String} {action : Action} (whole : lacking action = none) :
    lacking (action.mapText f) = none ∨ ∃ url, action = .navigate url ∧ f url = "" := by
  cases action with
  | navigate url =>
    by_cases empty : f url = ""
    · exact .inr ⟨url, rfl, empty⟩
    · left
      simp [Action.mapText, lacking, empty]
  | click | type | hover | waitForElement =>
    left
    simpa [Action.mapText, lacking, ClickStep.mapText, Selectors.isEmpty_mapText] using whole
  | scroll | waitForExpression | setViewport | key | steps => exact .inl rfl

theorem lacking_navigate_iff (url : String) :
    lacking (.navigate url) = none ↔ url ≠ "" := by
  simp [lacking]

/-- A step that is met before it is rewritten still is, if its address is not lost. -/
theorem meets_mapText_iff {f : String → String} {depth : Nat} {step : Step}
    (met : step.Meets depth) :
    (step.mapText f).Meets depth ↔ ∀ url, step.action = .navigate url → f url ≠ "" := by
  constructor
  · intro still url visits
    have whole := still.complete
    rw [Step.action_mapText, visits] at whole
    exact (lacking_navigate_iff (f url)).mp whole
  · intro kept
    refine ⟨fun nests => met.nested ?_, ?_⟩
    · rwa [Step.kind, Step.action_mapText, Action.kind_mapText] at nests
    · rw [Step.action_mapText]
      rcases lacking_mapText met.complete with whole | ⟨url, visits, lost⟩
      · exact whole
      · exact absurd lost (kept url visits)

end Script

/-! ## The steps of a script -/

open Json (Decoder Fields Origin Outline ReadError)

/-- Items that are read come from single readings. -/
theorem Json.Decoder.mem_items {α : Type} {d : Decoder α} {origin : Origin}
    {elements : List (Json.Item Outline)} {stop : Except Json.Flaw Json.Place} {found : List α}
    (read : Decoder.items d origin elements stop = .ok found) :
    ∀ a ∈ found, ∃ o, d origin o = .ok a := by
  induction elements generalizing found with
  | nil =>
    cases stop with
    | error flaw => cases read
    | ok place =>
      cases read
      simp
  | cons element rest induction =>
    unfold Decoder.items at read
    cases first : d origin element.value with
    | error error =>
      rw [first] at read
      cases read
    | ok a =>
      rw [first] at read
      cases others : Decoder.items d origin rest stop with
      | error error =>
        rw [others] at read
        cases read
      | ok as =>
        rw [others] at read
        cases read
        exact List.forall_mem_cons.mpr ⟨⟨_, first⟩, induction others⟩

theorem Json.Decoder.mem_list {α : Type} {d : Decoder α} {origin : Origin} {o : Outline}
    {found : List α} (read : Decoder.list d origin o = .ok found) :
    ∀ a ∈ found, ∃ part, d origin part = .ok a := by
  cases o with
  | arr before elements stop => exact Decoder.mem_items read
  | null | bool | num | str | obj | unreadable => cases read

theorem Json.Decoder.of_readText {α : Type} {d : Decoder α} {text : String} {a : α}
    (read : d.readText text = .ok a) : ∃ o, d .text o = .ok a := by
  unfold Decoder.readText at read
  dsimp only at read
  refine ⟨(Outline.ofText text).1, ?_⟩
  cases first : d .text (Outline.ofText text).1 with
  | error error =>
    rw [first] at read
    cases read
  | ok found =>
    rw [first] at read
    simp only [bind, Except.bind] at read
    split at read
    · exact read
    · cases read

namespace Step

theorem read_of_decoder {origin : Origin} {o : Outline} {step : Step}
    (read : decoder origin o = .ok step) : ∃ source, ofJson source = .ok step := by
  unfold decoder at read
  cases value : Decoder.json o with
  | error error =>
    rw [value] at read
    cases read
  | ok source =>
    rw [value] at read
    exact ⟨source, read⟩

/-- Every step of a script that was read was read from a value of its own. -/
theorem read_of_script {origin : Origin} {o : Outline} {script : Script}
    (read : Script.decoder origin o = .ok script) :
    ∀ step ∈ script.steps, ∃ source, ofJson source = .ok step := by
  have text : Decoder.string.Relates True id fun _ _ => True := .unchanged fun _ _ _ _ => trivial
  have description : (Decoder.optional Decoder.string).Relates True id fun _ _ => True :=
    .unchanged fun _ _ _ _ => trivial
  have parameters : Variables.decoder.Relates True id fun _ _ => True :=
    .unchanged fun _ _ _ _ => trivial
  have steps : (Decoder.list decoder).Relates True id
      fun steps _ => ∀ step ∈ steps, ∃ source, ofJson source = .ok step := by
    refine .unchanged fun origin o found whole step member => ?_
    obtain ⟨part, one⟩ := Decoder.mem_list whole step member
    exact read_of_decoder one
  have whole : Script.decoder.Relates True id
      fun script _ => ∀ step ∈ script.steps, ∃ source, ofJson source = .ok step := by
    refine .recordWith _ _ (.orDefault (.orDefault (.orDefault (.orDefault (.done ?_) text trivial)
      description trivial) parameters trivial) steps ?_)
    · intro _ _ _ _ _ _ _ _ _ _ _ readable
      exact readable
    · intro step member
      cases member
  have here := whole origin o
  rw [read] at here
  obtain ⟨_, _, readable⟩ := here.value
  exact readable

end Step

namespace Script

theorem checked_eq_ok_iff {script accepted : Script} :
    script.checked = .ok accepted ↔ accepted = script ∧ stepsViolation 0 script.steps = none := by
  unfold checked violation?
  cases stepsViolation 0 script.steps with
  | none => simp [eq_comm]
  | some error => simp

/-- What is known of a script that was accepted: its steps were read, and each of them and of those
inside them meets the rules. -/
theorem accepted_of_parse {text : String} {script : Script} (accepted : parse text = .ok script) :
    ∀ step ∈ script.steps, (∃ source, Step.ofJson source = .ok step) ∧
      stepViolation 0 step = none := by
  unfold parse at accepted
  split at accepted
  · next found read =>
    obtain ⟨rfl, met⟩ := checked_eq_ok_iff.mp accepted
    obtain ⟨o, reading⟩ := Decoder.of_readText read
    intro step member
    refine ⟨Step.read_of_script reading step member, ?_⟩
    rw [stepViolation_eq_none_iff]
    intro node inside
    exact (stepsViolation_eq_none_iff 0 _).mp met node (Step.mem_nodesOf member inside)
  · cases accepted

/-- Each step of an accepted script can be filled. Then no list in it lies deeper than the limit and
no selectors are missing. All of it is valid if no address in it was written as nothing but
placeholders whose values are empty, and only then. -/
theorem filled_stays_valid (text : String) (script : Script) (vars : Variables)
    (accepted : parse text = .ok script) :
    ∀ step ∈ script.steps, ∃ filled, (step.fill vars).1 = .ok filled ∧
      filled.nodes 0 = (step.nodes 0).map
        (fun node => (node.1, node.2.mapText (Template.filled vars))) ∧
      (∀ node ∈ filled.nodes 0,
        (node.2.kind = .nestedSteps → node.1 < maxNestingDepth) ∧
          (lacking node.2.action = none ∨ node.2.action = .navigate "")) ∧
      (stepViolation 0 filled = none ↔ ∀ node ∈ step.nodes 0, ∀ url,
        node.2.action = .navigate url → ¬ Template.Vanishes vars url) := by
  intro step member
  obtain ⟨⟨source, read⟩, valid⟩ := accepted_of_parse accepted step member
  have met := (stepViolation_eq_none_iff 0 step).mp valid
  have nodes := Step.nodes_mapText (Template.filled vars) 0 step
  refine ⟨_, Step.fill_eq_mapText read vars, nodes, ?_, ?_⟩
  · rw [nodes]
    intro node inside
    obtain ⟨before, origin, rfl⟩ := List.mem_map.mp inside
    have rules := met before origin
    dsimp only
    rw [Step.kind, Step.action_mapText, Action.kind_mapText]
    refine ⟨rules.nested, ?_⟩
    have filled := lacking_mapText (f := Template.filled vars) rules.complete
    rcases filled with whole | ⟨url, visits, lost⟩
    · exact .inl whole
    · right
      rw [visits, Action.mapText, lost]
  · rw [stepViolation_eq_none_iff, nodes, List.forall_mem_map]
    refine forall₂_congr fun node inside => ?_
    rw [meets_mapText_iff (met node inside)]
    simp only [ne_eq, Template.filled_eq_empty_iff]

/-- The step that goes to an address. -/
def visit (url : String) : Step :=
  .mk (.navigate url) none none none (.obj [("type", .str "navigate"), ("url", .str url)])

/-- It goes to an address that is given at the start of the run. -/
def visitSite : Script := ⟨"", "", none, .empty, [visit "\x7b\x7bsite\x7d\x7d"]⟩

def visitSiteText : String :=
  "\x7b\"steps\":[\x7b\"type\":\"navigate\",\"url\":\"\x7b\x7bsite\x7d\x7d\"\x7d]\x7d"

theorem parse_visitSiteText : parse visitSiteText = .ok visitSite := by cbv

theorem filled_site (value : String) :
    Template.filled (Variables.ofList [("site", value)]) "\x7b\x7bsite\x7d\x7d" = value :=
  Template.filled_of_hole (p := ⟨[], ['s', 'i', 't', 'e'], []⟩) rfl rfl

theorem fill_visit (value : String) :
    ((visit "\x7b\x7bsite\x7d\x7d").fill (Variables.ofList [("site", value)])).1 =
      .ok (visit value) := by
  have read : Step.ofJson (visit "\x7b\x7bsite\x7d\x7d").source =
      .ok (visit "\x7b\x7bsite\x7d\x7d") := rfl
  have spares := Template.filled_sparesPlain (Variables.ofList [("site", value)])
  rw [Step.fill_eq_mapText read]
  simp only [visit, Step.mapText, Action.mapText, Option.map_none, Json.mapText, Json.mapMembers,
    spares "navigate" rfl, filled_site]

theorem filled_site_stays_valid :
    parse visitSiteText = .ok visitSite ∧
      ∃ filled, ((visit "\x7b\x7bsite\x7d\x7d").fill
          (Variables.ofList [("site", "https://example.com/")])).1 = .ok filled ∧
        stepViolation 0 filled = none := by
  obtain ⟨filled, read, _, _, valid⟩ := filled_stays_valid visitSiteText visitSite
    (Variables.ofList [("site", "https://example.com/")]) parse_visitSiteText _ (.head _)
  refine ⟨parse_visitSiteText, filled, read, valid.mpr ?_⟩
  intro node inside url visits vanishes
  rw [List.mem_singleton.mp inside] at visits
  cases visits
  rw [← Template.filled_eq_empty_iff, filled_site] at vanishes
  exact absurd vanishes (by decide)

/-- An accepted script goes to no address at all when it is given the empty text as address. -/
theorem visit_loses_address :
    parse visitSiteText = .ok visitSite ∧
      visitSite.steps = [visit "\x7b\x7bsite\x7d\x7d"] ∧
      ((visit "\x7b\x7bsite\x7d\x7d").fill (Variables.ofList [("site", "")])).1 = .ok (visit "") ∧
      stepViolation 0 (visit "") = some .navigateNeedsUrl :=
  ⟨parse_visitSiteText, rfl, fill_visit "", rfl⟩

end Script

end BrowserScript

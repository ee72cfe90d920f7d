import BrowserScript.Proofs.Json.Agreement
import BrowserScript.Proofs.Script.Templates
import BrowserScript.Script.StepReading

/-!
# Filling the placeholders of a step

A step is filled in its source, which is then read again. The same step comes of rewriting every
string of the step that was read. Main definitions: `Step.mapText`, `Step.skeleton`. Main results:
`Step.ofJson_mapText`, `Step.fill_eq_mapText`.
-/

set_option autoImplicit false

namespace BrowserScript

/-- A rewriting that leaves texts without placeholders alone. -/
def SparesPlain (f : String → String) : Prop :=
  ∀ s : String, Template.hasOpening s.toList = false → f s = s

namespace Template

theorem filled_sparesPlain (vars : Variables) : SparesPlain (filled vars) := by
  intro s plain
  unfold filled substitute
  rw [plain]
  rfl

mutual

theorem substituteJson_fst (vars : Variables) (value : Json) :
    (substituteJson vars value).1 = value.mapText (filled vars) := by
  cases value with
  | null | bool | num | str => rfl
  | arr items => exact congrArg Json.arr (substituteItems_fst vars items)
  | obj members => exact congrArg Json.obj (substituteMembers_fst vars members)

theorem substituteItems_fst (vars : Variables) (items : List Json) :
    (substituteItems vars items).1 = Json.mapItems (filled vars) items := by
  cases items with
  | nil => rfl
  | cons item rest =>
    simp only [substituteItems, Json.mapItems]
    rw [substituteJson_fst vars item, substituteItems_fst vars rest]

theorem substituteMembers_fst (vars : Variables) (members : List (String × Json)) :
    (substituteMembers vars members).1 = Json.mapMembers (filled vars) members := by
  cases members with
  | nil => rfl
  | cons member rest =>
    obtain ⟨key, value⟩ := member
    simp only [substituteMembers, Json.mapMembers]
    rw [substituteJson_fst vars value, substituteMembers_fst vars rest]

end

end Template

open Json (Decoder Fields)

variable {exact : Prop} {f : String → String}

/-! ## Selectors and conditions -/

namespace Selectors

def mapText (f : String → String) (selectors : Selectors) : Selectors :=
  ⟨selectors.alternatives.map fun alternative => alternative.map f⟩

theorem mapText_mapText (f g : String → String) (selectors : Selectors) :
    (selectors.mapText f).mapText g = selectors.mapText fun s => g (f s) := by
  simp [mapText, Function.comp_def]

theorem isEmpty_mapText (f : String → String) (selectors : Selectors) :
    (selectors.mapText f).isEmpty = selectors.isEmpty := by
  simp [mapText, isEmpty, List.all_map, Function.comp_def]

theorem alternativeDecoder_carries : alternativeDecoder.Carries exact f (List.map f) := by
  have one : (Decoder.string.map fun s => [s]).Carries True f (List.map f) :=
    Decoder.Carries.string.map _ fun _ => rfl
  have many : (Decoder.list Decoder.string).Carries True f (List.map f) :=
    Decoder.Carries.string.list
  exact .firstOf_pair "Item" one many

theorem decoder_carries : decoder.Carries exact f (mapText f) := by
  have one : (Decoder.string.map single).Carries True f (mapText f) :=
    Decoder.Carries.string.map _ fun _ => rfl
  have list : ((Decoder.list alternativeDecoder).map Selectors.mk).Carries True f (mapText f) :=
    alternativeDecoder_carries.list.map _ fun _ => rfl
  exact .firstOf_pair "Raw" one list

end Selectors

namespace Condition

def mapText (f : String → String) : Condition → Condition
  | expression source => expression (f source)
  | element selectors present => element (selectors.mapText f) present
  | urlContains part => urlContains (f part)
  | textContains part => textContains (f part)

theorem mapText_mapText (f g : String → String) (condition : Condition) :
    (condition.mapText f).mapText g = condition.mapText fun s => g (f s) := by
  cases condition with
  | element selectors present =>
    exact congrArg (element · present) (selectors.mapText_mapText f g)
  | expression | urlContains | textContains => rfl

theorem option_mapText_mapText (f g : String → String) (condition : Option Condition) :
    (condition.map (mapText f)).map (mapText g) = condition.map (mapText fun s => g (f s)) := by
  rw [Option.map_map]
  exact congrArg (Option.map · condition) (funext (mapText_mapText f g))

namespace Draft

def mapText (f : String → String) (draft : Draft) : Draft where
  expression := draft.expression.map f
  selectors := draft.selectors.map (Selectors.mapText f)
  present := draft.present
  urlContains := draft.urlContains.map f
  textContains := draft.textContains.map f

/-- A rewritten object asks for the same kinds of checks. -/
theorem checks_mapText (draft : Draft) :
    (draft.mapText f).checks = draft.checks.map (Condition.mapText f) := by
  obtain ⟨expression, selectors, present, urlContains, textContains⟩ := draft
  simp only [mapText, checks, List.map_append]
  cases expression <;> cases selectors <;> cases urlContains <;> cases textContains <;> rfl

end Draft

theorem ofDraft_mapText (draft : String ⊕ Draft) :
    ofDraft (draft.map f (Draft.mapText f)) = (ofDraft draft).map (mapText f) := by
  cases draft with
  | inl source => rfl
  | inr draft =>
    simp only [ofDraft, Sum.map_inr, Draft.checks_mapText]
    match draft.checks with
    | [] | [_] | _ :: _ :: _ => rfl

theorem draftDecoder_carries : draftDecoder.Carries exact f (Draft.mapText f) := by
  have text : Decoder.string.Carries exact f f := .string
  have selectors : Selectors.decoder.Carries exact f (Selectors.mapText f) :=
    Selectors.decoder_carries
  have present : Decoder.bool.Carries exact f id := .bool
  refine .recordWith _ _ (.optional (.optional (.orDefault (.optional (.optional (.done ?_)
    text) selectors) present rfl) text) text)
  rintro _ _ rfl _ _ rfl _ _ rfl _ _ rfl _ _ rfl
  rfl

theorem decoder_carries : decoder.Carries exact f (mapText f) := by
  have expression : (Decoder.string.map (Sum.inl : String → String ⊕ Draft)).Carries True f
      (Sum.map f (Draft.mapText f)) := Decoder.Carries.string.map _ fun _ => rfl
  have object : (draftDecoder.map (Sum.inr : Draft → String ⊕ Draft)).Carries True f
      (Sum.map f (Draft.mapText f)) := draftDecoder_carries.map _ fun _ => rfl
  exact .andThen (.firstOf_pair "RawCondition" expression object) ofDraft_mapText

end Condition

/-! ## Loops and actions -/

namespace Loop

def mapText (f : String → String) (loop : Loop) : Loop :=
  { loop with condition := loop.condition.map (Condition.mapText f) }

theorem mapText_mapText (f g : String → String) (loop : Loop) :
    (loop.mapText f).mapText g = loop.mapText fun s => g (f s) := by
  simp only [mapText, Condition.option_mapText_mapText]

theorem decoder_carries : decoder.Carries exact f (mapText f) := by
  have iterations : Decoder.uint32.Carries exact f id := .uint32
  have pause : Decoder.uint64.Carries exact f id := .uint64
  have condition : (Decoder.optional Condition.decoder).Carries exact f _ :=
    Condition.decoder_carries.optional
  refine .recordWith _ _ (.orDefault (.orDefault (.required (.done ?_) iterations) pause rfl)
    condition rfl)
  rintro _ _ rfl _ _ rfl _ _ rfl
  rfl

end Loop

namespace ClickStep

def mapText (f : String → String) (click : ClickStep) : ClickStep :=
  { click with selectors := click.selectors.mapText f }

theorem button_carries (spares : SparesPlain f) : MouseButton.decoder.Carries False f id := by
  refine .variant _ fun entry member => spares entry.1 ?_
  revert entry
  decide

theorem fields_carries (spares : SparesPlain f) (clickCount : UInt32) :
    (fields clickCount).Relates False f (fun a b => b = mapText f a) (fields clickCount) := by
  have offset : Decoder.float.Carries False f id := .float
  refine .orDefault (.optional (.optional (.required (.done ?_) Selectors.decoder_carries) offset)
    offset) (button_carries spares) rfl
  rintro _ _ rfl _ _ rfl _ _ rfl _ _ rfl
  simp only [Option.map_id, id]
  rfl

end ClickStep

namespace ScrollStep

def mapText (f : String → String) (scroll : ScrollStep) : ScrollStep :=
  { scroll with selectors := scroll.selectors.mapText f }

theorem fields_carries : fields.Relates exact f (fun a b => b = mapText f a) fields := by
  have offset : Decoder.float.Carries exact f id := .float
  refine .orDefault (.orDefault (.orDefault (.done ?_) Selectors.decoder_carries rfl) offset rfl)
    offset rfl
  rintro _ _ rfl _ _ rfl _ _ rfl
  rfl

end ScrollStep

theorem ViewportStep.decoder_carries : decoder.Carries exact f id := by
  have side : Decoder.uint32.Carries exact f id := .uint32
  have scale : Decoder.float.Carries exact f id := .float
  have mobile : Decoder.bool.Carries exact f id := .bool
  refine .recordWith _ _ (.orDefault (.orDefault (.required (.required (.done ?_) side) side)
    scale rfl) mobile rfl)
  rintro _ _ rfl _ _ rfl _ _ rfl _ _ rfl
  rfl

/-! ## Steps -/

mutual

/-- The action with every text in it rewritten. -/
def Action.mapText (f : String → String) : Action → Action
  | .navigate url => .navigate (f url)
  | .click click => .click (click.mapText f)
  | .type selectors value => .type (selectors.mapText f) (f value)
  | .hover selectors => .hover (selectors.mapText f)
  | .scroll scroll => .scroll (scroll.mapText f)
  | .waitForElement selectors visible => .waitForElement (selectors.mapText f) visible
  | .waitForExpression source => .waitForExpression (f source)
  | .setViewport viewport => .setViewport viewport
  | .key key direction => .key (f key) direction
  | .steps children => .steps (Step.mapTexts f children)

/-- The step with every text in it, and in all steps inside it, rewritten. -/
def Step.mapText (f : String → String) : Step → Step
  | .mk action condition loop timeoutMs source =>
    .mk (Action.mapText f action) (condition.map (Condition.mapText f)) (loop.map (Loop.mapText f))
      timeoutMs (source.mapText f)

def Step.mapTexts (f : String → String) : List Step → List Step
  | [] => []
  | step :: rest => Step.mapText f step :: Step.mapTexts f rest

end

mutual

theorem Action.mapText_mapText (f g : String → String) (action : Action) :
    (action.mapText f).mapText g = action.mapText fun s => g (f s) := by
  cases action with
  | steps children => exact congrArg Action.steps (Step.mapTexts_mapTexts f g children)
  | navigate | waitForExpression | setViewport | key => rfl
  | click | type | hover | scroll | waitForElement =>
    simp only [Action.mapText, ClickStep.mapText, ScrollStep.mapText, Selectors.mapText_mapText]

theorem Step.mapText_mapText (f g : String → String) (step : Step) :
    (step.mapText f).mapText g = step.mapText fun s => g (f s) := by
  cases step with
  | mk action condition loop timeoutMs source =>
    simp only [Step.mapText]
    rw [Action.mapText_mapText f g action, Condition.option_mapText_mapText,
      Json.mapText_mapText, Option.map_map]
    exact congrArg (fun m => Step.mk _ _ (loop.map m) _ _) (funext (Loop.mapText_mapText f g))

theorem Step.mapTexts_mapTexts (f g : String → String) (steps : List Step) :
    Step.mapTexts g (Step.mapTexts f steps) = Step.mapTexts (fun s => g (f s)) steps := by
  cases steps with
  | nil => rfl
  | cons step rest =>
    simp only [Step.mapTexts]
    rw [Step.mapText_mapText f g step, Step.mapTexts_mapTexts f g rest]

end

/-- All of a step but its texts. -/
def Step.skeleton (step : Step) : Step := step.mapText fun _ => ""

namespace Step

theorem skeleton_mapText (f : String → String) (step : Step) :
    (step.mapText f).skeleton = step.skeleton :=
  mapText_mapText f (fun _ => "") step

theorem modifiersDecoder_carries :
    modifiersDecoder.Carries exact f fun modifiers =>
      ⟨modifiers.condition.map (Condition.mapText f), modifiers.loop.map (Loop.mapText f),
        modifiers.timeoutMs⟩ := by
  have condition : (Decoder.optional Condition.decoder).Carries exact f _ :=
    Condition.decoder_carries.optional
  have loop : (Decoder.optional Loop.decoder).Carries exact f _ := Loop.decoder_carries.optional
  have timeout : (Decoder.optional Decoder.uint64).Carries exact f (Option.map id) :=
    Decoder.Carries.uint64.optional
  refine .recordWith _ _ (.orDefault (.orDefault (.orDefault (.done ?_) condition rfl) loop rfl)
    timeout rfl)
  rintro _ _ rfl _ _ rfl _ _ rfl
  rw [Option.map_id]
  rfl

theorem hasOpening_name (known : StepType) : Template.hasOpening known.name.toList = false := by
  cases known <;> decide

theorem name_of_ofName? {name : String} {known : StepType}
    (found : StepType.ofName? name = some known) : known.name = name := by
  have same := List.find?_some found
  exact beq_iff_eq.mp same

variable {source : Json} {nested other : Unit → Option (Except Json.ReadError (List Step))}
  {action : Action}

/-- A record whose fields make an action. -/
theorem record_mapText {fields : Fields Action} (name : String)
    (inner : fields.Relates False f (fun a b => b = a.mapText f) fields)
    (read : (Decoder.record name fields).readValue source = .ok action) :
    (Decoder.record name fields).readValue (source.mapText f) = .ok (action.mapText f) :=
  Decoder.Carries.readValue (.recordWith .passed name inner) read

/-- An action that is given by one text. -/
theorem text_mapText {make : String → Action} (commutes : ∀ s, make (f s) = (make s).mapText f)
    (name member : String)
    (read : (Decoder.record name (Fields.done make |>.and (.required member .string))).readValue
      source = .ok action) :
    (Decoder.record name (Fields.done make |>.and (.required member .string))).readValue
      (source.mapText f) = .ok (action.mapText f) := by
  have text : Decoder.string.Carries False f f := .string
  refine record_mapText name (.required (.done ?_) text) read
  rintro s _ rfl
  exact commutes s

theorem click_mapText (spares : SparesPlain f) (count : UInt32)
    (read : ((Decoder.record "struct ClickAction" (ClickStep.fields count)).readValue source).map
      Action.click = .ok action) :
    ((Decoder.record "struct ClickAction" (ClickStep.fields count)).readValue
      (source.mapText f)).map Action.click = .ok (action.mapText f) :=
  Decoder.Carries.readValue_map (n := Action.mapText f)
    (.recordWith _ _ (ClickStep.fields_carries spares count)) Action.click (fun _ => rfl) read

theorem type_mapText
    (read : (Decoder.record "struct TypeAction" (Fields.done Action.type
      |>.and (.required "selectors" Selectors.decoder)
      |>.and (.required "value" .string))).readValue source = .ok action) :
    (Decoder.record "struct TypeAction" (Fields.done Action.type
      |>.and (.required "selectors" Selectors.decoder)
      |>.and (.required "value" .string))).readValue (source.mapText f) =
        .ok (action.mapText f) := by
  have text : Decoder.string.Carries False f f := .string
  refine record_mapText _ (.required (.required (.done ?_) Selectors.decoder_carries) text) read
  rintro _ _ rfl _ _ rfl
  rfl

/-- The action of a step, rewritten: the nested steps are handed in rewritten. -/
theorem actionOf_mapText (spares : SparesPlain f)
    (children : ∀ steps, nested () = some (.ok steps) → other () = some (.ok (mapTexts f steps)))
    (known : StepType) (read : actionOf source nested known = .ok action) :
    actionOf (source.mapText f) other known = .ok (action.mapText f) := by
  cases known with
  | click => exact click_mapText spares 1 read
  | doubleClick => exact click_mapText spares 2 read
  | type | change => exact type_mapText read
  | navigate | waitForExpression | keyDown | keyUp | keyPress =>
    exact text_mapText (fun _ => rfl) _ _ read
  | hover =>
    refine record_mapText _ (.required (.done ?_) Selectors.decoder_carries) read
    rintro _ _ rfl
    rfl
  | waitForElement =>
    have visible : Decoder.bool.Carries False f id := .bool
    refine record_mapText _ (.orDefault (.required (.done ?_) Selectors.decoder_carries) visible
      rfl) read
    rintro _ _ rfl _ _ rfl
    rfl
  | scroll =>
    have scrolled : (Decoder.record "struct ScrollAction" ScrollStep.fields).Carries False f _ :=
      .recordWith _ _ ScrollStep.fields_carries
    exact scrolled.readValue_map (n := Action.mapText f) Action.scroll (fun _ => rfl) read
  | setViewport =>
    have resized : ViewportStep.decoder.Carries False f id := ViewportStep.decoder_carries
    exact resized.readValue_map (n := Action.mapText f) Action.setViewport (fun _ => rfl) read
  | steps =>
    simp only [actionOf] at read ⊢
    cases given : nested () with
    | none =>
      rw [given] at read
      cases read
    | some results =>
      rw [given] at read
      cases results with
      | error error => cases read
      | ok steps =>
        cases read
        rw [children steps given]
        rfl

/-- All that makes a step: a known type, an action as the type wants it, and the modifiers. -/
theorem build_eq_ok_iff {step : Step} :
    build source nested = .ok step ↔
      ∃ name known action modifiers, source.field? "type" = some (.str name) ∧
        StepType.ofName? name = some known ∧ actionOf source nested known = .ok action ∧
        modifiersDecoder.readValue source = .ok modifiers ∧
        step = mk action modifiers.condition modifiers.loop modifiers.timeoutMs source := by
  unfold build
  constructor
  · intro read
    split at read
    · next name named =>
      split at read
      · cases read
      · next known found =>
        cases acts : actionOf source nested known with
        | error error =>
          rw [acts] at read
          cases read
        | ok action =>
          rw [acts] at read
          cases modifies : modifiersDecoder.readValue source with
          | error error =>
            rw [modifies] at read
            cases read
          | ok modifiers =>
            rw [modifies] at read
            cases read
            exact ⟨name, known, action, modifiers, named, found, acts, rfl, rfl⟩
    · cases read
  · rintro ⟨name, known, action, modifiers, named, found, acts, modifies, rfl⟩
    simp only [named, found, acts, modifies]
    rfl

theorem build_mapText (spares : SparesPlain f)
    (children : ∀ steps, nested () = some (.ok steps) → other () = some (.ok (mapTexts f steps)))
    {step : Step} (read : build source nested = .ok step) :
    build (source.mapText f) other = .ok (step.mapText f) := by
  obtain ⟨name, known, action, modifiers, named, found, acts, modifies, rfl⟩ :=
    build_eq_ok_iff.mp read
  have kept : f name = name := spares name (name_of_ofName? found ▸ hasOpening_name known)
  have stillNamed : (source.mapText f).field? "type" = some (.str name) := by
    rw [Json.field?_mapText, named, Option.map_some, Json.mapText, kept]
  have modified := (modifiersDecoder_carries : Decoder.Carries False f _ _).readValue modifies
  exact build_eq_ok_iff.mpr ⟨name, known, _, _, stillNamed, found,
    actionOf_mapText spares children known acts, modified, rfl⟩

mutual

/-- A rewritten value reads as the rewritten step. -/
theorem ofJson_mapText (spares : SparesPlain f) (source : Json) (step : Step)
    (read : ofJson source = .ok step) : ofJson (source.mapText f) = .ok (step.mapText f) := by
  cases source with
  | obj members =>
    exact build_mapText spares (fun steps => nestedIn_mapMembers spares members steps) read
  | null | bool | num | str | arr => cases read

theorem nestedIn_mapMembers (spares : SparesPlain f) (members : List (String × Json))
    (steps : List Step) (read : nestedIn members = some (.ok steps)) :
    nestedIn (Json.mapMembers f members) = some (.ok (mapTexts f steps)) := by
  cases members with
  | nil => cases read
  | cons member rest =>
    obtain ⟨key, value⟩ := member
    simp only [Json.mapMembers, nestedIn] at read ⊢
    split
    · next named =>
      rw [if_pos named] at read
      rw [listOf_mapText spares value steps (Option.some.inj read)]
    · next unnamed =>
      rw [if_neg unnamed] at read
      exact nestedIn_mapMembers spares rest steps read

theorem listOf_mapText (spares : SparesPlain f) (value : Json) (steps : List Step)
    (read : listOf value = .ok steps) :
    listOf (value.mapText f) = .ok (mapTexts f steps) := by
  cases value with
  | arr items => exact stepsOf_mapItems spares items steps read
  | null | bool | num | str | obj => cases read

theorem stepsOf_mapItems (spares : SparesPlain f) (items : List Json) (steps : List Step)
    (read : stepsOf items = .ok steps) :
    stepsOf (Json.mapItems f items) = .ok (mapTexts f steps) := by
  cases items with
  | nil =>
    cases read
    rfl
  | cons item rest =>
    simp only [stepsOf] at read
    cases first : ofJson item with
    | error error =>
      rw [first] at read
      cases read
    | ok step =>
      rw [first] at read
      cases others : stepsOf rest with
      | error error =>
        rw [others] at read
        cases read
      | ok later =>
        rw [others] at read
        cases read
        simp only [Json.mapItems, stepsOf]
        rw [ofJson_mapText spares item step first, stepsOf_mapItems spares rest later others]
        rfl

end

theorem source_of_ofJson {step : Step} (read : ofJson source = .ok step) :
    step.source = source := by
  cases source with
  | obj members =>
    obtain ⟨_, _, _, _, _, _, _, _, rfl⟩ := build_eq_ok_iff.mp read
    rfl
  | null | bool | num | str | arr => cases read

/-- Filling a step that was read gives the step with all its texts filled. -/
theorem fill_eq_mapText {step : Step} (read : ofJson source = .ok step) (vars : Variables) :
    (step.fill vars).1 = .ok (step.mapText (Template.filled vars)) := by
  have again := ofJson_mapText (Template.filled_sparesPlain vars) source step read
  have reading : (step.fill vars).1 =
      if source.mapText (Template.filled vars) = source then .ok step
      else ofJson (source.mapText (Template.filled vars)) := by
    unfold fill
    rw [source_of_ofJson read, ← Template.substituteJson_fst]
  rw [reading]
  split
  · next same =>
    rw [same, read] at again
    exact again
  · exact again

end Step

end BrowserScript

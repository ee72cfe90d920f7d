import BrowserScript.Proofs.Json.Admission
import BrowserScript.Proofs.Script.Filling

/-!
# The grammar of steps

Which JSON values are steps, said without the decoders: a table of rules for each type of step, for
conditions and for loops, and one induction over nested steps. Main definitions: `StepType.rules`,
`Condition.IsWritten`, `Step.IsWritten`. Main result: `Step.ofJson_iff_isWritten`.
-/

set_option autoImplicit false

namespace BrowserScript

open Json

variable {origin : Origin}

/-! ## Selectors -/

/-- A text, or a list of texts and lists of texts. -/
def Selectors.IsWritten (value : Json) : Prop :=
  IsText value ∨ IsListOf (fun item => IsText item ∨ IsListOf IsText item) value

theorem Selectors.decoder_admits : decoder.Admits origin IsWritten := by
  have alternative : alternativeDecoder.Admits .held
      fun item => IsText item ∨ IsListOf IsText item :=
    .firstOf "Item" (Decoder.Admits.string.map _) Decoder.Admits.string.list
  exact .firstOf "Raw" (Decoder.Admits.string.map _) (alternative.list.map _)

/-! ## Conditions -/

namespace Condition

def rules : List Rule := [
  ⟨"expression", .free, OrNull IsText⟩,
  ⟨"selectors", .free, OrNull Selectors.IsWritten⟩,
  ⟨"exists", .spare, IsFlag⟩,
  ⟨"urlContains", .free, OrNull IsText⟩,
  ⟨"textContains", .free, OrNull IsText⟩]

/-- What a condition may check. -/
def checkNames : List String := ["expression", "selectors", "urlContains", "textContains"]

/-- Something other than `null` is given under the name. -/
def isSet (members : Members) (name : String) : Bool :=
  (given name members).any fun part => !part.isNull

/-- A text, or a record of known members with exactly one check. -/
def IsWritten (value : Json) : Prop :=
  IsText value ∨ ∃ members, Lays rules value members ∧
    (∀ member ∈ members, member.1 ∈ rules.map Rule.name) ∧ Fit rules members ∧
      checkNames.countP (isSet members) = 1

theorem isSet_of_part {β : Type} {d : Decoder β} {name : String} {members : Members}
    {found : Option β}
    (part : (Field.optional name d).part? origin none (given name members) = some found) :
    isSet members name = found.isSome := by
  have present : ∀ value : Json, value.isNull = false →
      (Decoder.optional d origin value.outline).toOption = some found → found.isSome := by
    intro value given read
    have some : Decoder.optional d origin value.outline =
        (d origin value.outline).map Option.some := by
      cases value with
      | null => cases given
      | bool | num | str | arr | obj => rfl
    rw [some] at read
    cases inner : d origin value.outline <;> rw [inner] at read <;> cases read
    rfl
  unfold isSet
  match given name members, part with
  | [], part =>
    cases part
    rfl
  | [value], part =>
    cases nothing : value.isNull with
    | true =>
      cases value <;> cases nothing
      cases part
      rfl
    | false => simp [nothing, present value nothing part]
  | _ :: _ :: _, part => cases part

theorem draft_asks : (Fields.done Draft.mk
      |>.and (.optional "expression" .string)
      |>.and (.optional "selectors" Selectors.decoder)
      |>.and (.orDefault "exists" .bool true)
      |>.and (.optional "urlContains" .string)
      |>.and (.optional "textContains" .string)).Asks origin rules := by
  have start : (Fields.done Draft.mk).Asks origin [] := .done _
  have asks := start
    |>.and (.optional "expression" .string)
    |>.and (.optional "selectors" Selectors.decoder_admits)
    |>.and (.orDefault "exists" .bool true)
    |>.and (.optional "urlContains" .string)
    |>.and (.optional "textContains" .string)
  exact asks

/-- An object asks for as many checks as it gives names of checks. -/
theorem length_checks {members : Members} {draft : Draft}
    (whole : (Fields.done Draft.mk
      |>.and (.optional "expression" .string)
      |>.and (.optional "selectors" Selectors.decoder)
      |>.and (.orDefault "exists" .bool true)
      |>.and (.optional "urlContains" .string)
      |>.and (.optional "textContains" .string)).assembled? origin members = some draft) :
    draft.checks.length = checkNames.countP (isSet members) := by
  simp only [Fields.assembled?_and, Fields.assembled?, Option.bind_eq_some_iff,
    Option.map_eq_some_iff, Option.some.injEq] at whole
  obtain ⟨_, ⟨_, ⟨_, ⟨_, ⟨_, rfl, expression, first, rfl⟩, selectors, second, rfl⟩, present, -,
    rfl⟩, urlContains, third, rfl⟩, textContains, fourth, rfl⟩ := whole
  have first := isSet_of_part first
  have second := isSet_of_part second
  have third := isSet_of_part third
  have fourth := isSet_of_part fourth
  simp only [Draft.checks, checkNames, List.countP_cons, List.countP_nil, first, second, third,
    fourth]
  cases expression <;> cases selectors <;> cases urlContains <;> cases textContains <;> rfl

theorem ofDraft_eq_ok_iff {draft : Draft} :
    (∃ condition, ofDraft (.inr draft) = .ok condition) ↔ draft.checks.length = 1 := by
  simp only [ofDraft]
  rcases draft.checks with _ | ⟨check, _ | ⟨other, rest⟩⟩ <;> simp

theorem decoder_admits : decoder.Admits origin IsWritten := by
  intro value
  have string : Decoder.string.Admits .held IsText := .string
  have text := string.map (Sum.inl : String → String ⊕ Draft) value
  have object := fun draft => draft_asks.record_eq_ok_iff (a := draft) (by decide)
    (by decide : Origin.held ≠ .text) .refused "struct ConditionMap" value
  simp only [decoder, Decoder.andThen_eq_ok_iff, Decoder.firstOf_eq_ok_iff]
  by_cases written : IsText value
  · obtain ⟨s, rfl⟩ := written
    exact iff_of_true ⟨expression s, .inl s, .inl rfl, rfl⟩ (.inl ⟨s, rfl⟩)
  · have unread := text.not.mpr written
    constructor
    · rintro ⟨condition, found, read | ⟨-, mapped⟩, made⟩
      · exact absurd ⟨found, read⟩ unread
      · obtain ⟨draft, read, rfl⟩ := Decoder.map_eq_ok_iff.mp mapped
        obtain ⟨members, lays, known, whole⟩ := (object draft).mp read
        refine .inr ⟨members, lays, known rfl, ?_, ?_⟩
        · exact (draft_asks.assembled members).mp (Option.isSome_iff_exists.mpr ⟨draft, whole⟩)
        · exact length_checks whole ▸ ofDraft_eq_ok_iff.mp ⟨condition, made⟩
    · rintro (text | ⟨members, lays, known, fit, single⟩)
      · exact absurd text written
      · obtain ⟨draft, whole⟩ :=
          Option.isSome_iff_exists.mp ((draft_asks.assembled members).mpr fit)
        have read := (object draft).mpr ⟨members, lays, fun _ => known, whole⟩
        obtain ⟨condition, made⟩ := ofDraft_eq_ok_iff.mpr ((length_checks whole).trans single)
        exact ⟨condition, .inr draft, .inr ⟨unread, Decoder.map_eq_ok_iff.mpr ⟨draft, read, rfl⟩⟩,
          made⟩

end Condition

/-! ## Loops and modifiers -/

def Loop.rules : List Rule := [
  ⟨"iterations", .needed, IsNaturalBelow UInt32.size⟩,
  ⟨"waitBetweenMs", .spare, IsNaturalBelow UInt64.size⟩,
  ⟨"condition", .spare, OrNull Condition.IsWritten⟩]

theorem Loop.decoder_admits : Loop.decoder.Admits .value (IsRecord rules) := by
  have start : (Fields.done Loop.mk).Asks .value [] := .done _
  have asks := start
    |>.and (.required "iterations" .uint32)
    |>.and (.orDefault "waitBetweenMs" .uint64 0)
    |>.and (.orDefault "condition" Condition.decoder_admits.optional none)
  exact asks.record_admits (by decide) (by decide) "struct LoopSpec"

/-- What any step may have. -/
def Step.commonRules : List Rule := [
  ⟨"condition", .spare, OrNull Condition.IsWritten⟩,
  ⟨"loop", .spare, OrNull (IsRecord Loop.rules)⟩,
  ⟨"timeout", .spare, OrNull (IsNaturalBelow UInt64.size)⟩]

theorem Step.modifiersDecoder_admits :
    modifiersDecoder.Admits .value (IsRecord commonRules) := by
  have start : (Fields.done Modifiers.mk).Asks .value [] := .done _
  have asks := start
    |>.and (.orDefault "condition" Condition.decoder_admits.optional none)
    |>.and (.orDefault "loop" Loop.decoder_admits.optional none)
    |>.and (.orDefault "timeout" Decoder.Admits.uint64.optional none)
  exact asks.record_admits (by decide) (by decide) "struct Common"

/-! ## Steps -/

/-- What a step of the type asks for, its nested steps apart. -/
def StepType.rules : StepType → List Rule
  | navigate => [⟨"url", .needed, IsText⟩]
  | click | doubleClick => [
    ⟨"selectors", .needed, Selectors.IsWritten⟩,
    ⟨"offsetX", .free, OrNull IsNumber⟩,
    ⟨"offsetY", .free, OrNull IsNumber⟩,
    ⟨"button", .spare, IsNamed (MouseButton.names.map Prod.fst)⟩]
  | type | change => [
    ⟨"selectors", .needed, Selectors.IsWritten⟩,
    ⟨"value", .needed, IsText⟩]
  | hover => [⟨"selectors", .needed, Selectors.IsWritten⟩]
  | scroll => [
    ⟨"selectors", .spare, Selectors.IsWritten⟩,
    ⟨"x", .spare, IsNumber⟩,
    ⟨"y", .spare, IsNumber⟩]
  | waitForElement => [
    ⟨"selectors", .needed, Selectors.IsWritten⟩,
    ⟨"visible", .spare, IsFlag⟩]
  | waitForExpression => [⟨"expression", .needed, IsText⟩]
  | setViewport => [
    ⟨"width", .needed, IsNaturalBelow UInt32.size⟩,
    ⟨"height", .needed, IsNaturalBelow UInt32.size⟩,
    ⟨"deviceScaleFactor", .spare, IsNumber⟩,
    ⟨"isMobile", .spare, IsFlag⟩]
  | keyDown | keyUp | keyPress => [⟨"key", .needed, IsText⟩]
  | steps => []

/-- The value is written as a step. -/
inductive Step.IsWritten : Json → Prop
  | single {members : Members} {stepType : StepType}
      (typed : Members.get? "type" members = some (.str stepType.name))
      (other : stepType ≠ .steps) (own : Fit stepType.rules members)
      (common : Fit commonRules members) : IsWritten (.obj members)
  | block {members : Members} {items : List Json}
      (typed : Members.get? "type" members = some (.str StepType.steps.name))
      (listed : Members.get? "steps" members = some (.arr items))
      (each : ∀ item ∈ items, IsWritten item) (common : Fit commonRules members) :
      IsWritten (.obj members)

namespace Step

/-- Members by name are a record of any rules that they fit. -/
theorem isRecord_obj {rules : List Rule} {members : Members} :
    IsRecord rules (.obj members) ↔ Fit rules members := by
  constructor
  · rintro ⟨_, ⟨⟩, fit⟩
    exact fit
  · exact fun fit => ⟨members, .named members, fit⟩

theorem ofName?_eq_some_iff {name : String} {stepType : StepType} :
    StepType.ofName? name = some stepType ↔ name = stepType.name := by
  refine ⟨fun found => (name_of_ofName? found).symm, ?_⟩
  rintro rfl
  cases stepType <;> rfl

/-- The action of a single step is read exactly if its members fit the rules of its type. -/
theorem actionOf_admits {members : Members}
    (nested : Unit → Option (Except ReadError (List Step))) {stepType : StepType}
    (single : stepType ≠ .steps) :
    (∃ action, actionOf (.obj members) nested stepType = .ok action) ↔
      Fit stepType.rules members := by
  have record : ∀ {α : Type} {fields : Fields α} {rules : List Rule} (name : String),
      fields.Asks .value rules → (rules.map Rule.name).Nodup →
        ((∃ a, (Decoder.record name fields).readValue (.obj members) = .ok a) ↔
          Fit rules members) := by
    intro α fields rules name asks distinct
    simp only [Decoder.readValue, Decoder.unplaced_eq_ok_iff]
    exact (asks.record_admits distinct (by decide) name (.obj members)).trans isRecord_obj
  have mapped : ∀ {α : Type} {result : Except ReadError α} (make : α → Action),
      (∃ action, result.map make = .ok action) ↔ ∃ a, result = .ok a := by
    intro α result make
    cases result <;> simp [Except.map]
  have selectors : Selectors.decoder.Admits .value Selectors.IsWritten := Selectors.decoder_admits
  have button : MouseButton.decoder.Admits .value (IsNamed (MouseButton.names.map Prod.fst)) :=
    .variant _ _
  have start : ∀ {α : Type} (a : α), (Fields.done a).Asks .value [] := fun a => .done a
  cases stepType with
  | steps => exact absurd rfl single
  | navigate => exact record _ (start Action.navigate |>.and (.required "url" .string)) (by decide)
  | waitForExpression =>
    exact record _ (start Action.waitForExpression |>.and (.required "expression" .string))
      (by decide)
  | keyDown | keyUp | keyPress =>
    exact record _ (start (fun key => Action.key key _) |>.and (.required "key" .string))
      (by decide)
  | hover =>
    exact record _ (start Action.hover |>.and (.required "selectors" selectors)) (by decide)
  | type | change =>
    exact record _ (start Action.type |>.and (.required "selectors" selectors)
      |>.and (.required "value" .string)) (by decide)
  | waitForElement =>
    exact record _ (start Action.waitForElement |>.and (.required "selectors" selectors)
      |>.and (.orDefault "visible" .bool false)) (by decide)
  | click | doubleClick =>
    exact (mapped _).trans (record _ (start _ |>.and (.required "selectors" selectors)
      |>.and (.optional "offsetX" .float) |>.and (.optional "offsetY" .float)
      |>.and (.orDefault "button" button _)) (by decide))
  | scroll =>
    exact (mapped _).trans (record _ (start ScrollStep.mk
      |>.and (.orDefault "selectors" selectors default) |>.and (.orDefault "x" .float _)
      |>.and (.orDefault "y" .float _)) (by decide))
  | setViewport =>
    exact (mapped _).trans (record _ (start ViewportStep.mk |>.and (.required "width" .uint32)
      |>.and (.required "height" .uint32) |>.and (.orDefault "deviceScaleFactor" .float _)
      |>.and (.orDefault "isMobile" .bool false)) (by decide))

theorem modifiers_admits {members : Members} :
    (∃ modifiers, modifiersDecoder.readValue (.obj members) = .ok modifiers) ↔
      Fit commonRules members := by
  simp only [Decoder.readValue, Decoder.unplaced_eq_ok_iff]
  exact (modifiersDecoder_admits (.obj members)).trans isRecord_obj

/-- What it takes to build a step whose nested steps, if it wants some, are known to be readable or
not. -/
theorem build_iff_isWritten {members : Members}
    {nested : Unit → Option (Except ReadError (List Step))}
    (inside : (∃ steps, nested () = some (.ok steps)) ↔
      ∃ items, Members.get? "steps" members = some (.arr items) ∧
        ∀ item ∈ items, IsWritten item) :
    (∃ step, build (.obj members) nested = .ok step) ↔ IsWritten (.obj members) := by
  simp only [build_eq_ok_iff]
  constructor
  · rintro ⟨_, name, known, action, modifiers, typed, found, acts, modifies, rfl⟩
    obtain rfl := ofName?_eq_some_iff.mp found
    have common := modifiers_admits.mp ⟨modifiers, modifies⟩
    by_cases block : known = .steps
    · subst block
      cases given : nested () with
      | none => simp [actionOf, given, Decoder.fail] at acts
      | some steps =>
        cases steps with
        | error error => simp [actionOf, given, Except.map] at acts
        | ok steps =>
          obtain ⟨items, listed, each⟩ := inside.mp ⟨steps, given⟩
          exact .block typed listed each common
    · exact .single typed block ((actionOf_admits nested block).mp ⟨action, acts⟩) common
  · intro written
    have found := fun stepType => ofName?_eq_some_iff.mpr (rfl : StepType.name stepType = _)
    cases written with
    | @single _ stepType typed other own common =>
      obtain ⟨action, acts⟩ := (actionOf_admits nested other).mpr own
      obtain ⟨modifiers, modifies⟩ := modifiers_admits.mpr common
      exact ⟨_, _, stepType, action, modifiers, typed, found stepType, acts, modifies, rfl⟩
    | @block _ items typed listed each common =>
      obtain ⟨steps, given⟩ := inside.mpr ⟨items, listed, each⟩
      obtain ⟨modifiers, modifies⟩ := modifiers_admits.mpr common
      refine ⟨_, _, .steps, .steps steps, modifiers, typed, found .steps, ?_, modifies, rfl⟩
      simp [actionOf, given, Except.map]

mutual

theorem readable_iff (value : Json) : (∃ step, ofJson value = .ok step) ↔ IsWritten value := by
  cases value with
  | obj members => exact build_iff_isWritten (nestedIn_iff members)
  | null | bool | num | str | arr =>
    refine iff_of_false ?_ (fun written => nomatch written)
    simp [ofJson, build, field?, Decoder.fail]

theorem nestedIn_iff (members : Members) :
    (∃ steps, nestedIn members = some (.ok steps)) ↔
      ∃ items, Members.get? "steps" members = some (.arr items) ∧
        ∀ item ∈ items, IsWritten item := by
  cases members with
  | nil => simp [nestedIn, Members.get?]
  | cons member rest =>
    obtain ⟨key, value⟩ := member
    by_cases named : key = "steps"
    · subst named
      simpa [nestedIn, Members.get?] using listOf_iff value
    · simpa [nestedIn, Members.get?, named, Ne.symm named] using nestedIn_iff rest

theorem listOf_iff (value : Json) :
    (∃ steps, listOf value = .ok steps) ↔
      ∃ items, value = .arr items ∧ ∀ item ∈ items, IsWritten item := by
  cases value with
  | arr items => simpa [listOf] using stepsOf_iff items
  | null | bool | num | str | obj =>
    simp [listOf, Decoder.unplaced_eq_ok_iff, Decoder.unexpected_ne_ok]

theorem stepsOf_iff (items : List Json) :
    (∃ steps, stepsOf items = .ok steps) ↔ ∀ item ∈ items, IsWritten item := by
  cases items with
  | nil => simp [stepsOf]
  | cons item rest =>
    rw [List.forall_mem_cons, ← readable_iff item, ← stepsOf_iff rest, stepsOf]
    cases ofJson item <;> cases stepsOf rest <;> simp [bind, Except.bind, pure, Except.pure]

end

/-- A value is read as a step, which keeps it as its source, exactly if it is written as one. -/
theorem ofJson_iff_isWritten (value : Json) :
    (∃ step, ofJson value = .ok step ∧ step.source = value) ↔ IsWritten value := by
  rw [← readable_iff]
  exact exists_congr fun step => and_iff_left_of_imp source_of_ofJson

end Step

end BrowserScript

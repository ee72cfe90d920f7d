import BrowserScript.Proofs.Session.Deed

/-!
# What holds between two deeds

The operations of the manager, its lines and its states fit together, whatever is done in whatever
order. Main definition: `Session.Sound`, which is made of `Crew`, `Lines`, `Scripts`, `Homes` and
`Phases`. Main result: `Session.Deeds.sound`.
-/

set_option autoImplicit false

namespace BrowserScript.Session

open Manager

variable {m after : Manager} {deed : Deed}

@[simp, grind =] theorem slot_operation (purpose : Purpose) (i : SlotId) (stage : Stage) :
    (purpose.operation i stage).slot = i := by
  cases purpose <;> rfl

@[simp, grind =] theorem stage?_operation (purpose : Purpose) (i : SlotId) (stage : Stage) :
    (purpose.operation i stage).stage? = some stage := by
  cases purpose <;> rfl

@[simp, grind =] theorem isCall_operation (purpose : Purpose) (i : SlotId) (stage : Stage) :
    (purpose.operation i stage).isCall = decide (purpose = .ensure) := by
  cases purpose <;> rfl

theorem isStaged_operation (purpose : Purpose) (i : SlotId) (attempt : Attempt) :
    (purpose.operation i (.attempting attempt)).IsStaged := by
  cases purpose with
  | ensure => exact .inr ⟨attempt, rfl⟩
  | reattach => exact Stage.noConfusion

-- The only order here is that of the numbers: `-linarith` keeps `grind` from looking for others.
attribute [local grind] Operation.slot Operation.stage? Operation.isLined Operation.isBusy
  Operation.isCall Operation.IsStaged Single

/-! ## Operations -/

/-- Operations are numbered from below, belong to slots, and are in one of their stages. -/
structure Crew (m : Manager) : Prop where
  numbered : ∀ id operation, m.operation? id = some operation → id < m.nextOperation
  placed : ∀ id operation, m.operation? id = some operation → operation.slot < m.slots.length
  staged : ∀ id operation, m.operation? id = some operation → operation.IsStaged

theorem Crew.fresh (crew : Crew m) : m.operation? m.nextOperation = none := by
  cases found : m.operation? m.nextOperation with
  | none => rfl
  | some operation => exact absurd (crew.numbered _ _ found) (Nat.lt_irrefl _)

theorem Does.crew (does : Does m deed after) (crew : Crew m) : Crew after := by
  have fresh := crew.fresh
  obtain ⟨numbered, placed, staged⟩ := crew
  cases does with
  | makes target missing =>
    refine ⟨numbered, fun id operation here => ?_, staged⟩
    rw [List.length_append]
    exact Nat.lt_succ_of_lt (placed id operation here)
  | enters i operation known | queues i known | loses i handle known =>
    have inside := inside_of_known known
    constructor <;> grind -linarith
  | proceeds id i purpose before later here =>
    have still := isStaged_operation purpose i later
    constructor <;> grind -linarith
  | _ => constructor <;> grind -linarith

/-! ## The lines of those who attach or detach -/

/-- An operation is in the line of its slot exactly from lining up to its end, and those who have
had their turn are first. -/
structure Lines (m : Manager) : Prop where
  lined : ∀ i id, id ∈ (m.slot i).attachLine ↔
    ∃ operation, m.operation? id = some operation ∧ operation.slot = i ∧ operation.isLined = true
  once : ∀ i, (m.slot i).attachLine.Nodup
  first : ∀ id operation, m.operation? id = some operation → operation.isBusy = true →
    (m.slot operation.slot).attachLine.head? = some id

/-- An operation ends and leaves its line. -/
theorem Lines.leave (lines : Lines m) (i : SlotId) (id : OperationId) (operation : Operation)
    (here : m.operation? id = some operation) (belongs : operation.slot = i)
    (shorter : ∀ j, (after.slot j).attachLine =
      if i = j then (m.slot j).attachLine.leave id else (m.slot j).attachLine)
    (fewer : ∀ other, after.operation? other = if other = id then none else m.operation? other) :
    Lines after := by
  obtain ⟨lined, once, first⟩ := lines
  constructor
  · intro j other
    rw [shorter, fewer]
    split
    · rw [Line.mem_leave (once j), lined]
      grind
    · rw [lined]
      grind
  · intro j
    rw [shorter]
    split
    · exact Line.nodup_leave (once j)
    · exact once j
  · intro other operation there busy
    rw [fewer] at there
    split at there
    · cases there
    · next different =>
      have front := first other operation there busy
      rw [shorter]
      split
      · exact Line.head?_leave front different
      · exact front

/-- An operation lines up. -/
theorem Lines.join (lines : Lines m) (i : SlotId) (id : OperationId) (operation : Operation)
    (unlined : ∀ before, m.operation? id = some before → before.isLined = false)
    (lined : operation.isLined = true) (patient : operation.isBusy = false)
    (belongs : operation.slot = i)
    (longer : ∀ j, (after.slot j).attachLine =
      if i = j then (m.slot j).attachLine.join id else (m.slot j).attachLine)
    (more : ∀ other, after.operation? other =
      if other = id then some operation else m.operation? other) : Lines after := by
  obtain ⟨stands, once, first⟩ := lines
  have absent : ∀ j, id ∉ (m.slot j).attachLine := by
    intro j member
    obtain ⟨before, here, _, was⟩ := (stands j id).mp member
    rw [unlined before here] at was
    cases was
  constructor
  · intro j other
    rw [longer, more]
    split
    · rw [Line.mem_join, stands]
      grind
    · rw [stands]
      grind
  · intro j
    rw [longer]
    split
    · exact Line.nodup_join (once j) (absent j)
    · exact once j
  · intro other before there busy
    rw [more] at there
    split at there
    · cases there
      rw [patient] at busy
      cases busy
    · have front := first other before there busy
      rw [longer]
      split
      · exact Line.head?_join front
      · exact front

theorem Does.lines (does : Does m deed after) (crew : Crew m) (lines : Lines m) : Lines after := by
  have fresh := crew.fresh
  obtain ⟨numbered, placed, staged⟩ := crew
  cases does with
  | makes target missing =>
    obtain ⟨lined, once, first⟩ := lines
    have unlined : (m.slot m.slots.length).attachLine = [] := by
      rw [slot_outside (Nat.le_refl _)]
      rfl
    constructor <;> grind -linarith
  | enters i operation known call =>
    have inside := inside_of_known known
    have shape : operation.slot = i ∧ operation.isLined = true ∧ operation.isBusy = false := by
      rcases call with rfl | rfl <;> exact ⟨rfl, rfl, rfl⟩
    obtain ⟨belongs, lined, patient⟩ := shape
    refine lines.join i m.nextOperation operation ?_ lined patient belongs ?_ ?_ <;> grind
  | linesUp id i here =>
    have inside := placed id _ here
    refine lines.join i id (.reattach i .inLine) ?_ rfl rfl rfl ?_ ?_ <;> grind
  | leaves id operation stage here =>
    have inside := placed id _ here
    refine lines.leave operation.slot id operation here rfl ?_ ?_ <;> grind
  | idles id i here | succeeds id i _ _ _ here | fails id i _ _ _ here =>
    have inside := placed id _ here
    refine lines.leave i id _ here (by grind) ?_ ?_ <;> grind
  | _ =>
    obtain ⟨lined, once, first⟩ := lines
    constructor <;> grind -linarith

/-! ## The lines of scripts -/

/-- An operation is in the line of scripts from its beginning to its end. -/
structure Scripts (m : Manager) : Prop where
  queued : ∀ i id, id ∈ (m.slot i).scriptLine ↔ m.operation? id = some (.acquire i)
  once : ∀ i, (m.slot i).scriptLine.Nodup

theorem Does.scripts (does : Does m deed after) (crew : Crew m) (scripts : Scripts m) :
    Scripts after := by
  have fresh := crew.fresh
  obtain ⟨numbered, placed, staged⟩ := crew
  obtain ⟨queued, once⟩ := scripts
  have absent : ∀ i, m.nextOperation ∉ (m.slot i).scriptLine := by
    intro i member
    rw [queued, fresh] at member
    cases member
  cases does with
  | makes target missing =>
    have unqueued : (m.slot m.slots.length).scriptLine = [] := by
      rw [slot_outside (Nat.le_refl _)]
      rfl
    constructor <;> grind -linarith
  | queues i known =>
    have inside := inside_of_known known
    have joined := Line.nodup_join (once i) (absent i)
    constructor <;> grind -linarith
  | leavesScripts id i here =>
    have left : ((m.slot i).scriptLine.leave id).Nodup := Line.nodup_leave (once i)
    constructor <;> grind -linarith
  | proceeds id i purpose _ _ here | succeeds id i purpose _ _ here
  | fails id i purpose _ _ here =>
    have apart : ∀ stage j, purpose.operation i stage ≠ .acquire j := by
      cases purpose <;> exact fun _ _ => Operation.noConfusion
    constructor <;> grind -linarith
  | _ => constructor <;> grind -linarith

/-! ## The slots of targets -/

/-- A target has one slot at a time, a slot is not forgotten under a call, and a handle names the
target of its slot. -/
structure Homes (m : Manager) : Prop where
  single : m.Single
  kept : ∀ id operation, m.operation? id = some operation → operation.isCall = true →
    (m.slot operation.slot).known = true
  named : ∀ i handle, (m.slot i).state = .attached handle → handle.targetId = (m.slot i).target

/-- A slot under a call is in use. -/
theorem inUse_of_call (crew : Crew m) (lines : Lines m) (scripts : Scripts m) {id : OperationId}
    {operation : Operation} (here : m.operation? id = some operation)
    (call : operation.isCall = true) : (m.slot operation.slot).inUse = true := by
  have staged := crew.staged id operation here
  unfold Slot.inUse
  cases operation with
  | ensure i stage | detach i stage =>
    have lined : id ∈ (m.slot i).attachLine := by
      rw [lines.lined]
      grind
    have some : (m.slot i).attachLine.isEmpty = false := by
      simpa using List.ne_nil_of_mem lined
    simp [Operation.slot, some]
  | acquire i =>
    have queued : id ∈ (m.slot i).scriptLine := (scripts.queued i id).mpr here
    have some : (m.slot i).scriptLine.isEmpty = false := by
      simpa using List.ne_nil_of_mem queued
    simp [Operation.slot, some]
  | reattach | recover => cases call

theorem Does.homes (does : Does m deed after) (crew : Crew m) (lines : Lines m)
    (scripts : Scripts m) (homes : Homes m) : Homes after := by
  have fresh := crew.fresh
  obtain ⟨numbered, placed, staged⟩ := crew
  obtain ⟨single, kept, named⟩ := homes
  cases does with
  | makes target missing =>
    have new : ∀ i, (m.slot i).known = true → (m.slot i).target ≠ target :=
      fun i known => find?_none missing known
    constructor <;> grind -linarith
  | closes i known =>
    have used : ∀ id operation, m.operation? id = some operation → operation.isCall = true →
        (m.slot operation.slot).inUse = true :=
      fun _ _ here => inUse_of_call ⟨numbered, placed, staged⟩ lines scripts here
    constructor <;> grind -linarith [closed_eq, SessionState.handle?]
  | _ => constructor <;> grind -linarith [concluded, granted]

/-! ## What is published while somebody has had a turn -/

/-- While an operation attempts to attach, the state says so. -/
structure Phases (m : Manager) : Prop where
  attaching : ∀ id i attempt, m.operation? id = some (.ensure i (.attempting attempt)) →
    (m.slot i).state = .attaching
  reattaching : ∀ id i stage, m.operation? id = some (.reattach i stage) →
    (Operation.reattach i stage).isBusy = true → (m.slot i).state = .reattaching

/-- Whoever has had a turn is alone first, so nobody else publishes a state meanwhile. -/
theorem Does.phases (does : Does m deed after) (crew : Crew m) (lines : Lines m)
    (phases : Phases m) : Phases after := by
  have fresh := crew.fresh
  have placed := crew.placed
  have first := lines.first
  obtain ⟨attaching, reattaching⟩ := phases
  cases does with
  | proceeds id i purpose before later here =>
    cases purpose with
    | ensure => constructor <;> grind -linarith [Purpose.operation]
    | reattach => constructor <;> grind -linarith [Purpose.operation]
  | closes i known => constructor <;> grind -linarith [closed]
  | _ => constructor <;> grind -linarith

/-! ## All of it -/

/-- What holds between two deeds. -/
structure Sound (m : Manager) : Prop where
  crew : Crew m
  lines : Lines m
  scripts : Scripts m
  homes : Homes m
  phases : Phases m

theorem Does.sound (does : Does m deed after) (sound : Sound m) : Sound after where
  crew := does.crew sound.crew
  lines := does.lines sound.crew sound.lines
  scripts := does.scripts sound.crew sound.scripts
  homes := does.homes sound.crew sound.lines sound.scripts sound.homes
  phases := does.phases sound.crew sound.lines sound.phases

theorem Deeds.sound {deeds : List Deed} (done : Deeds m deeds after) (sound : Sound m) :
    Sound after :=
  done.invariant (fun _ _ _ does => does.sound) sound

/-- Nothing has been done in the beginning. -/
theorem sound_ofSettings (settings : Settings) : Sound (ofSettings settings) := by
  have idle : ∀ i, (ofSettings settings).slot i = default := fun i => slot_outside (Nat.zero_le i)
  have alone : ∀ id, (ofSettings settings).operation? id = none := fun _ => rfl
  have unlined : (default : Slot).attachLine = [] := rfl
  have unqueued : (default : Slot).scriptLine = [] := rfl
  have unknown : (default : Slot).known = false := rfl
  have detached : (default : Slot).state = .detached := rfl
  refine ⟨?_, ?_, ?_, ?_, ?_⟩ <;> constructor <;> grind -linarith

end BrowserScript.Session

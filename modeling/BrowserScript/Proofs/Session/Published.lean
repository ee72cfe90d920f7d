import BrowserScript.Proofs.Session.Moves

/-!
# What is published

What each deed makes of the state that is published for a target. Main definitions:
`Session.Deed.published`, `Session.Keeps`. Main results: `Session.Does.stateOf`,
`Session.Does.stateOf_none`, `Session.Quietly.keeps`.
-/

set_option autoImplicit false

namespace BrowserScript.Session

open Manager

variable {m after : Manager} {deed : Deed} {i j : SlotId} {target : String}

attribute [local grind] Operation.slot Operation.stage? Operation.isLined Operation.isBusy
  Operation.isCall Operation.isAttempting Deed.isQuiet concluded

/-- The state that is published for the target of a slot after a deed. -/
def Deed.published (m : Manager) (j : SlotId) (deed : Deed) : SessionState :=
  match deed with
  | asks _ i => if i = j then .attaching else (m.slot j).state
  | succeeds _ i _ handle => if i = j then .attached handle else (m.slot j).state
  | fails _ i _ | clears _ i | idles _ i | drops i _ =>
    if i = j then .detached else (m.slot j).state
  | loses _ i _ => if i = j then .reattaching else (m.slot j).state
  | closes i =>
    if i = j then if (m.slot j).inUse then closed (m.slot j).state else .detached
    else (m.slot j).state
  | makes _ | enters _ _ | linesUp _ _ | backsOff _ _ | asksAgain _ _ | proceeds _ _ | leaves _ _
  | queues _ _ | takesLease _ _ | leavesScripts _ _ | watches _ _ _ _ | ceases _ _ =>
    (m.slot j).state

/-- A slot keeps its target, and is forgotten only with the target detached. -/
theorem Does.slot (does : Does m deed after) (sound : Sound m) (known : (m.slot j).known = true) :
    (after.slot j).target = (m.slot j).target ∧
      if (after.slot j).known then (after.slot j).state = deed.published m j
      else deed.published m j = .detached := by
  have inside := inside_of_known known
  have placed := sound.crew.placed
  cases does with
  | _ => grind [Deed.published]

/-- Only a target without a slot gets a new one. -/
theorem Does.slot_new (does : Does m deed after) (known : (after.slot j).known = true) :
    (m.slot j).known = true ∨
      ((after.slot j).state = .detached ∧ m.find? (after.slot j).target = none) := by
  cases does with
  | _ => grind

/-- A target without a slot is detached. -/
theorem stateOf_unknown (unknown : ∀ j, (m.slot j).known = true → (m.slot j).target ≠ target) :
    m.stateOf target = .detached := by
  unfold stateOf
  split
  · next i found =>
    obtain ⟨known, same⟩ := find?_some found
    exact absurd same (unknown i known)
  · rfl

/-- A target that is not detached has a slot. -/
theorem known_of_stateOf (sound : Sound m) (state : m.stateOf target ≠ .detached) :
    ∃ i, (m.slot i).known = true ∧ (m.slot i).target = target ∧
      (m.slot i).state = m.stateOf target := by
  by_contra none
  refine state (stateOf_unknown fun i known same => none ⟨i, known, same, ?_⟩)
  rw [← same, sound.homes.single.stateOf known]

/-- What a deed makes of the published state. -/
theorem Does.stateOf (does : Does m deed after) (sound : Sound m)
    (known : (m.slot j).known = true) :
    after.stateOf (m.slot j).target = deed.published m j := by
  have still := does.sound sound
  obtain ⟨same, state⟩ := does.slot sound known
  split at state
  · next knownToo => rw [← same, still.homes.single.stateOf knownToo, state]
  · next forgotten =>
    rw [state]
    refine stateOf_unknown fun i knownToo other => ?_
    rcases does.slot_new knownToo with before | ⟨_, missing⟩
    · have unmoved := (does.slot sound before).1
      rw [unmoved] at other
      rw [sound.homes.single i j before known other] at knownToo
      exact forgotten knownToo
    · exact find?_none missing known other.symm

theorem Does.stateOf_unknown (does : Does m deed after) (sound : Sound m)
    (unknown : ∀ j, (m.slot j).known = true → (m.slot j).target ≠ target) :
    after.stateOf target = .detached := by
  have still := does.sound sound
  by_contra state
  obtain ⟨i, known, same, shown⟩ := known_of_stateOf still state
  rcases does.slot_new known with before | ⟨detached, _⟩
  · rw [(does.slot sound before).1] at same
    exact unknown i before same
  · rw [← shown] at state
    exact state detached

/-! ## Quiet deeds -/

/-- What nobody sees leaves alone what is published and who attempts to attach. -/
structure Keeps (m after : Manager) : Prop where
  stateOf : ∀ target, after.stateOf target = m.stateOf target
  slots : ∀ i, i < m.slots.length → i < after.slots.length ∧
    (after.slot i).known = (m.slot i).known ∧ (after.slot i).target = (m.slot i).target ∧
    (after.slot i).state = (m.slot i).state
  attempts : ∀ id operation, operation.isAttempting = true →
    (after.operation? id = some operation ↔ m.operation? id = some operation)
  reattachments : ∀ id i stage, after.operation? id = some (.reattach i stage) →
    ∃ earlier, m.operation? id = some (.reattach i earlier)

theorem Keeps.refl (m : Manager) : Keeps m m := by
  constructor <;> grind

theorem Keeps.trans {middle : Manager} (early : Keeps m middle) (late : Keeps middle after) :
    Keeps m after := by
  obtain ⟨stateOf, slots, attempts, reattachments⟩ := early
  obtain ⟨stateOf', slots', attempts', reattachments'⟩ := late
  constructor <;> grind

theorem Does.keeps (does : Does m deed after) (sound : Sound m) (quiet : deed.isQuiet = true) :
    Keeps m after := by
  have fresh := sound.crew.fresh
  have placed := sound.crew.placed
  refine ⟨fun target => ?_, ?_, ?_, ?_⟩
  · by_cases unknown : ∀ j, (m.slot j).known = true → (m.slot j).target ≠ target
    · rw [does.stateOf_unknown sound unknown, Session.stateOf_unknown unknown]
    · push Not at unknown
      obtain ⟨j, known, rfl⟩ := unknown
      rw [does.stateOf sound known, sound.homes.single.stateOf known]
      cases does <;> first | rfl | exact Bool.noConfusion quiet
  · cases does <;> grind
  · cases does <;> grind
  · cases does <;> grind

theorem Quietly.keeps (done : Quietly m after) (sound : Sound m) : Keeps m after := by
  obtain ⟨deeds, done, quiet⟩ := done
  induction done with
  | none m => exact .refl m
  | next does _ induction =>
    have first := does.keeps sound (quiet _ List.mem_cons_self)
    refine first.trans (induction (does.sound sound) fun deed member => ?_)
    exact quiet deed (List.mem_cons_of_mem _ member)

end BrowserScript.Session

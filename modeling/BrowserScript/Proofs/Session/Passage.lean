import BrowserScript.Proofs.Session.Published

/-!
# Runs in which nobody gives up

A run of the manager with everything that has been done in it, as long as no operation is given up,
and the changes that the published states go through. Main definitions: `Session.Passage`,
`Session.Runs`, `Session.Becomes`. Main results: `Session.Runs.split`, `Session.Passage.becomes`.
-/

set_option autoImplicit false

namespace BrowserScript.Session

open Manager

/-- A move in a run, with the manager that it finds. -/
structure Passage where
  now : Nat
  before : Manager
  move : Move

namespace Passage

def after (p : Passage) : Manager := (p.before.move p.now p.move).1

/-- What the move tells, and whom. -/
def told? (p : Passage) : Option (OperationId × Wait) := (p.before.move p.now p.move).2

end Passage

/-- No operation is given up. -/
def Move.isPatient : Move → Bool
  | abandon _ => false
  | _ => true

/-- Every state of the manager, with the time and with all that has been done, the latest move
first, when no operation is given up. -/
inductive Runs (settings : Settings) : Nat → Manager → List Passage → Prop
  | start : Runs settings 0 (ofSettings settings) []
  | wait {now : Nat} {m : Manager} {past : List Passage} (time : Nat)
      (run : Runs settings now m past) : Runs settings (now + time) m past
  | move {now : Nat} {m : Manager} {past : List Passage} (move : Move)
      (run : Runs settings now m past) (allowed : m.Allows move) (patient : move.isPatient = true) :
      Runs settings now (m.move now move).1 (⟨now, m, move⟩ :: past)

variable {settings : Settings} {now : Nat} {m after : Manager} {deed : Deed} {i j : SlotId}
  {id : OperationId} {target : String} {p : Passage} {past earlier later : List Passage}

namespace Runs

theorem reaches (run : Runs settings now m past) : Reaches settings now m := by
  induction run with
  | start => exact .start
  | wait time _ induction => exact .wait time induction
  | move move _ allowed _ induction => exact .move move induction allowed

theorem sound (run : Runs settings now m past) : Sound m := run.reaches.sound

/-- What has been done was done in a run. -/
theorem split (run : Runs settings now m (later ++ p :: earlier)) :
    Runs settings p.now p.before earlier ∧ p.before.Allows p.move ∧ p.move.isPatient = true := by
  generalize whole : later ++ p :: earlier = past at run
  induction run generalizing later with
  | start => cases later <;> cases whole
  | wait _ _ induction => exact induction whole
  | move move run allowed patient induction =>
    cases later with
    | nil =>
      obtain ⟨rfl, rfl⟩ := List.cons.inj whole
      exact ⟨run, allowed, patient⟩
    | cons _ later =>
      obtain ⟨_, rest⟩ := List.cons.inj whole
      exact induction rest

theorem of_mem (run : Runs settings now m past) (member : p ∈ past) :
    ∃ earlier, Runs settings p.now p.before earlier ∧ p.before.Allows p.move ∧
      p.move.isPatient = true := by
  obtain ⟨later, earlier, rfl⟩ := List.append_of_mem member
  exact ⟨earlier, run.split⟩

end Runs

/-! ## Changes of the published state -/

/-- The changes that the state of a target goes through. -/
inductive Becomes : SessionState → SessionState → Prop
  | attaches : Becomes .detached .attaching
  | replaces : Becomes .reattaching .attaching
  | succeeds (handle : SessionHandle) : Becomes .attaching (.attached handle)
  | fails : Becomes .attaching .detached
  | ends (handle : SessionHandle) : Becomes (.attached handle) .detached
  | loses (handle : SessionHandle) : Becomes (.attached handle) .reattaching
  | recovers (handle : SessionHandle) : Becomes .reattaching (.attached handle)
  | gives : Becomes .reattaching .detached

/-- The state that is left, or a change of it. -/
def Passes (before after : SessionState) : Prop := after = before ∨ Becomes before after

theorem passes_closed (state : SessionState) : Passes state (closed state) := by
  cases state with
  | attached handle => exact .inr (.ends handle)
  | detached | attaching | reattaching => exact .inl rfl

theorem passes_detached (state : SessionState) : Passes state .detached := by
  cases state with
  | detached => exact .inl rfl
  | attaching => exact .inr .fails
  | attached handle => exact .inr (.ends handle)
  | reattaching => exact .inr .gives

/-- Who attempts to attach finds the state that belongs to the attempt. -/
theorem passes_attempted (phases : Phases m) {purpose : Purpose} {attempt : Attempt}
    (here : m.operation? id = some (purpose.operation i (.attempting attempt)))
    (handle : SessionHandle) : Passes (m.slot i).state (.attached handle) := by
  cases purpose with
  | ensure =>
    rw [phases.attaching id i attempt here]
    exact .inr (.succeeds handle)
  | reattach =>
    rw [phases.reattaching id i _ here rfl]
    exact .inr (.recovers handle)

/-- A deed makes of the state of a slot what may become of it. -/
theorem Does.passes_published (does : Does m deed after) (sound : Sound m) (j : SlotId) :
    Passes (m.slot j).state (deed.published m j) := by
  have same : Passes (m.slot j).state (m.slot j).state := .inl rfl
  cases does with
  | asks id i _ _ unattached =>
    simp only [Deed.published]
    split
    · next here =>
      subst here
      cases state : (m.slot i).state with
      | detached => exact .inr .attaches
      | attaching => exact .inl rfl
      | reattaching => exact .inr .replaces
      | attached handle =>
        rw [state] at unattached
        cases unattached
    · exact same
  | succeeds id i purpose attempt session here =>
    simp only [Deed.published]
    split
    · next belongs => exact belongs ▸ passes_attempted sound.phases here _
    · exact same
  | fails id i | clears id i | idles id i | drops i =>
    simp only [Deed.published]
    split
    · exact passes_detached _
    · exact same
  | loses i handle known running attached =>
    simp only [Deed.published]
    split
    · next here =>
      rw [← here, attached]
      exact .inr (.loses handle)
    · exact same
  | closes i known =>
    simp only [Deed.published]
    split
    · split
      · exact passes_closed _
      · exact passes_detached _
    · exact same
  | _ => exact same

theorem Does.passes (does : Does m deed after) (sound : Sound m) (target : String) :
    Passes (m.stateOf target) (after.stateOf target) := by
  by_cases unknown : ∀ j, (m.slot j).known = true → (m.slot j).target ≠ target
  · rw [does.stateOf_unknown sound unknown, Session.stateOf_unknown unknown]
    exact .inl rfl
  · push Not at unknown
    obtain ⟨j, known, rfl⟩ := unknown
    rw [does.stateOf sound known, sound.homes.single.stateOf known]
    exact does.passes_published sound j

/-- A move changes the state of a target at most once. -/
theorem Passage.becomes (sound : Sound p.before) (allowed : p.before.Allows p.move)
    (target : String) : Passes (p.before.stateOf target) (p.after.stateOf target) := by
  obtain ⟨deed?, effect, _⟩ := move_effect p.now sound allowed
  unfold Passage.after
  cases effect.acts with
  | quietly done => exact .inl ((done.keeps sound).stateOf target)
  | once early does late =>
    have soundBefore := early.sound sound
    rw [(late.keeps (does.sound soundBefore)).stateOf, ← (early.keeps sound).stateOf]
    exact does.passes soundBefore target

end BrowserScript.Session

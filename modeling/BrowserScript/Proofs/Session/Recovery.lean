import BrowserScript.Proofs.Session.Lease

/-!
# Recoveries

Who wants a session newer than one that went away is given a session of the same target with a
greater generation, or none. Main definitions: `SessionHandle.Precedes`, `Session.Continues`,
`Session.Recovers`. Main result: `Session.Recovers.precedes`.
-/

set_option autoImplicit false

namespace BrowserScript

/-- The other session is a later one of the same target. -/
structure SessionHandle.Precedes (stale handle : SessionHandle) : Prop where
  target : handle.targetId = stale.targetId
  newer : stale.generation < handle.generation

/-- The session itself or a later one of the same target. -/
def SessionHandle.Since (oldest handle : SessionHandle) : Prop :=
  handle = oldest ∨ oldest.Precedes handle

namespace SessionHandle

variable {first second third : SessionHandle}

theorem Precedes.trans (early : first.Precedes second) (late : second.Precedes third) :
    first.Precedes third :=
  ⟨late.target.trans early.target, Nat.lt_trans early.newer late.newer⟩

theorem Since.trans (early : first.Since second) (late : second.Since third) :
    first.Since third := by
  rcases early with rfl | early
  · exact late
  · rcases late with rfl | late
    · exact .inr early
    · exact .inr (early.trans late)

end SessionHandle

namespace Session

open Manager

variable {settings : Settings} {now later : Nat} {m after : Manager} {deed : Deed} {i : SlotId}
  {id : OperationId} {stale handle : SessionHandle} {answer : Option SessionHandle}

/-! ## Answers to a recovery -/

/-- What can come of the manager from a moment on. -/
inductive Continues (now : Nat) (m : Manager) : Nat → Manager → Prop
  | here : Continues now m now m
  | wait {later : Nat} {after : Manager} (time : Nat) (continues : Continues now m later after) :
      Continues now m (later + time) after
  | move {later : Nat} {after : Manager} (move : Move) (continues : Continues now m later after)
      (allowed : after.Allows move) : Continues now m later (after.move later move).1

/-- What a call to recover from the loss of a session is answered, at once or when it goes on,
whatever else is done in between. -/
inductive Recovers (settings : Settings) (stale : SessionHandle) (answer : Option SessionHandle) :
    Prop
  | atOnce {now : Nat} {m : Manager} {id : OperationId} (reaches : Reaches settings now m)
      (told : (m.recover now stale).2 = (id, .over (.recovered answer))) :
      Recovers settings stale answer
  | inTheEnd {now later : Nat} {m after : Manager} {id : OperationId} {wait : Wait} {input : Input}
      (reaches : Reaches settings now m) (begun : (m.recover now stale).2 = (id, wait))
      (continues : Continues now (m.recover now stale).1 later after)
      (allowed : after.Allows (.resume id input))
      (told : (after.resume later id input).2 = .over (.recovered answer)) :
      Recovers settings stale answer

theorem Reaches.continues (reaches : Reaches settings now m)
    (continues : Continues now m later after) : Reaches settings later after := by
  induction continues with
  | here => exact reaches
  | wait time _ induction => exact .wait time induction
  | move move _ allowed induction => exact .move move induction allowed

/-! ## Who waits for a recovery -/

/-- The slot is the one of a target. -/
def Manager.Houses (m : Manager) (i : SlotId) (target : String) : Prop :=
  i < m.slots.length ∧ (m.slot i).target = target

/-- As long as it is not over, the operation waits for a session newer than the given one, in a slot
of its target. -/
structure Manager.Seeks (m : Manager) (id : OperationId) (stale : SessionHandle) : Prop where
  numbered : id < m.nextOperation
  waits : ∀ operation, m.operation? id = some operation →
    ∃ i deadline, operation = .recover i stale deadline ∧ m.Houses i stale.targetId

theorem Does.houses {target : String} (does : Does m deed after) (sound : Sound m)
    (houses : m.Houses i target) : after.Houses i target := by
  obtain ⟨inside, home, _⟩ := does.keepsSlots sound houses.1
  exact ⟨inside, home.trans houses.2⟩

theorem Does.seeks (does : Does m deed after) (sound : Sound m) (seeks : m.Seeks id stale) :
    after.Seeks id stale := by
  have fresh := sound.crew.fresh
  obtain ⟨numbered, waits⟩ := seeks
  have grows : m.nextOperation ≤ after.nextOperation := by
    cases does with
    | _ => grind
  -- Nobody but the operation itself changes what it waits for, and it only ends.
  have still : ∀ operation, after.operation? id = some operation →
      m.operation? id = some operation := by
    intro operation here
    cases known : m.operation? id with
    | none =>
      cases does with
      | _ => grind
    | some earlier =>
      obtain ⟨i, deadline, rfl, _⟩ := waits earlier known
      cases does with
      | proceeds id' j purpose => cases purpose <;> grind [Purpose.operation]
      | _ => grind
  refine ⟨Nat.lt_of_lt_of_le numbered grows, fun operation here => ?_⟩
  obtain ⟨i, deadline, same, houses⟩ := waits operation (still operation here)
  exact ⟨i, deadline, same, does.houses sound houses⟩

theorem Deeds.seeks {deeds : List Deed} (done : Deeds m deeds after) (sound : Sound m)
    (seeks : m.Seeks id stale) : after.Seeks id stale := by
  induction done with
  | none m => exact seeks
  | next does _ induction => exact induction (does.sound sound) (does.seeks sound seeks)

theorem Continues.seeks (continues : Continues now m later after)
    (reaches : Reaches settings now m) (seeks : m.Seeks id stale) : after.Seeks id stale := by
  induction continues with
  | here => exact seeks
  | wait _ _ induction => exact induction
  | @move later middle move continues allowed induction =>
    have sound := (reaches.continues continues).sound
    obtain ⟨_, effect, _⟩ := move_effect later sound allowed
    obtain ⟨_, done⟩ := effect.acts.deeds
    exact done.seeks sound induction

/-! ## Newer sessions -/

theorem recovery_precedes (sound : Sound m) (houses : m.Houses i stale.targetId)
    (recovered : recovery stale (m.slot i).state = some (some handle)) :
    stale.Precedes handle := by
  cases state : (m.slot i).state with
  | attached other =>
    rw [state, recovery] at recovered
    split at recovered
    · next newer =>
      cases recovered
      exact ⟨(sound.homes.named i handle state).trans houses.2, newer⟩
    · cases recovered
  | detached | attaching | reattaching =>
    rw [state] at recovered
    cases recovered

/-- What a call to recover begins is in the slot of its target. -/
theorem restarted_houses (sound : Sound m) (stale : SessionHandle) :
    Sound (m.restarted stale) ∧
      (m.restarted stale).Houses (m.slotOf stale.targetId).2 stale.targetId := by
  have made := (slotOf_quietly m stale.targetId).sound sound
  obtain ⟨known, home⟩ := slotOf_known m stale.targetId
  obtain ⟨_, acts, _⟩ := restarted_acts known stale.sessionId
  obtain ⟨_, done⟩ := acts.deeds
  obtain ⟨inside, kept, _⟩ := done.keepsSlots made (inside_of_known known)
  exact ⟨done.sound made, inside, kept.trans home⟩

theorem recover_eq (m : Manager) (now : Nat) (stale : SessionHandle) :
    m.recover now stale =
      let i := (m.slotOf stale.targetId).2
      let restarted := m.restarted stale
      let deadline := now + restarted.settings.recoverTimeoutMs.toNat
      let begun := restarted.begin (.recover i stale deadline)
      match recovery stale (restarted.slot i).state with
      | some result => (begun.1.finish begun.2, begun.2, .over (.recovered result))
      | none => (begun.1, begun.2, .change deadline) := rfl

theorem recover_seeks (sound : Sound m) (now : Nat) (stale : SessionHandle) :
    (m.recover now stale).1.Seeks (m.recover now stale).2.1 stale := by
  obtain ⟨still, houses⟩ := restarted_houses sound stale
  have fresh := still.crew.fresh
  rw [recover_eq]
  dsimp only
  split
  · refine ⟨Nat.lt_succ_self _, fun operation here => ?_⟩
    grind
  · refine ⟨Nat.lt_succ_self _, fun operation here => ?_⟩
    cases here.symm.trans (operation?_begun _ fresh)
    exact ⟨_, _, rfl, houses⟩

/-- Whoever recovers from the loss of a session is given a later one of the same target. -/
theorem Recovers.precedes (recovers : Recovers settings stale (some handle)) :
    stale.Precedes handle := by
  cases recovers with
  | @atOnce now m id reaches told =>
    obtain ⟨still, houses⟩ := restarted_houses reaches.sound stale
    rw [recover_eq] at told
    dsimp only at told
    split at told
    · next result recovered =>
      cases told
      exact recovery_precedes still houses recovered
    · cases told
  | @inTheEnd now later m after id wait input reaches begun continues allowed told =>
    have begins : Reaches settings now (m.recover now stale).1 :=
      .move (.recover stale) reaches trivial
    have seeks := recover_seeks reaches.sound now stale
    rw [begun] at seeks
    obtain ⟨operation, here, _⟩ := allowed
    obtain ⟨i, deadline, rfl, houses⟩ := (continues.seeks begins seeks).waits operation here
    simp only [resume, here, awaitRecovery] at told
    split at told
    · next result recovered =>
      cases told
      exact recovery_precedes (begins.continues continues).sound houses recovered
    · split at told <;> cases told

end Session

end BrowserScript

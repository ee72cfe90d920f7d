import BrowserScript.Proofs.Session.Company

/-!
# Where operations come from

An operation is for the same purpose from its beginning to its end, and who is in the middle of a
call has begun it. Main definitions: `Session.Operation.aim`, `Session.Operation.call?`. Main
results: `Session.Deeds.aim`, `Session.call_begun`.
-/

set_option autoImplicit false

namespace BrowserScript.Session

open Manager

namespace Operation

/-- What an operation is for, however far it has come. -/
def aim : Operation → Operation
  | ensure i _ => .ensure i .fresh
  | reattach i _ => .reattach i .fresh
  | detach i _ => .detach i .fresh
  | acquire i => .acquire i
  | recover i stale deadline => .recover i stale deadline

/-- The move with which a call for a target begins. -/
def call? (target : String) : Operation → Option Move
  | ensure _ _ => some (.ensure target)
  | detach _ _ => some (.detach target)
  | acquire _ => some (.acquire target)
  | reattach _ _ | recover _ _ _ => none

theorem aim_eq_ensure {operation : Operation} {i : SlotId} {stage : Stage} :
    operation.aim = (ensure i stage).aim ↔ ∃ earlier, operation = ensure i earlier := by
  cases operation <;> simp [aim]

theorem aim_eq_detach {operation : Operation} {i : SlotId} {stage : Stage} :
    operation.aim = (detach i stage).aim ↔ ∃ earlier, operation = detach i earlier := by
  cases operation <;> simp [aim]

theorem slot_of_aim {one other : Operation} (same : one.aim = other.aim) :
    one.slot = other.slot := by
  cases one <;> cases other <;> simp_all [aim, slot]

theorem call?_of_aim {one other : Operation} (same : one.aim = other.aim) (target : String) :
    one.call? target = other.call? target := by
  cases one <;> cases other <;> simp_all [aim, call?]

end Operation

variable {m after : Manager} {deed : Deed} {i : SlotId} {id : OperationId} {now : Nat}
  {operation : Operation} {move begun : Move} {target : String}

/-! ## Operations that have been begun -/

theorem Does.aim (does : Does m deed after) (sound : Sound m) (old : id < m.nextOperation)
    (here : after.operation? id = some operation) :
    ∃ earlier, m.operation? id = some earlier ∧ earlier.aim = operation.aim := by
  have fresh := sound.crew.fresh
  cases does with
  | proceeds _ _ purpose | succeeds _ _ purpose | fails _ _ purpose =>
    cases purpose <;> grind [Purpose.operation, Operation.aim]
  | _ => grind [Operation.aim]

theorem Deeds.aim {deeds : List Deed} (done : Deeds m deeds after) (sound : Sound m)
    (old : id < m.nextOperation) (here : after.operation? id = some operation) :
    ∃ earlier, m.operation? id = some earlier ∧ earlier.aim = operation.aim := by
  induction done with
  | none m => exact ⟨operation, here, rfl⟩
  | next does _ induction =>
    obtain ⟨middle, there, same⟩ :=
      induction (does.sound sound) (Nat.lt_of_lt_of_le old does.nextOperation_le) here
    obtain ⟨earlier, before, sameToo⟩ := does.aim sound old there
    exact ⟨earlier, before, sameToo.trans same⟩

/-- An operation that has been numbered before a move stays what it is. -/
theorem move_aim (sound : Sound m) (allowed : m.Allows move) (old : id < m.nextOperation)
    (here : (m.move now move).1.operation? id = some operation) :
    ∃ earlier, m.operation? id = some earlier ∧ earlier.aim = operation.aim := by
  obtain ⟨_, effect, _⟩ := move_effect now sound allowed
  obtain ⟨_, done⟩ := effect.acts.deeds
  exact done.aim sound old here

/-! ## Operations that are begun -/

theorem nextOperation_advance (purpose : Purpose) (attempt : Attempt) (input : Input) :
    (m.advance now purpose i id attempt input).1.nextOperation = m.nextOperation := by
  unfold advance
  repeat' split
  all_goals simp [attempting]

theorem nextOperation_resume (m : Manager) (now : Nat) (id : OperationId) (input : Input) :
    (m.resume now id input).1.nextOperation = m.nextOperation := by
  have turn : ∀ i operation, (m.tryTurn now i id operation).1.nextOperation = m.nextOperation := by
    intro i operation
    unfold tryTurn
    split
    · exact nextOperation_takeTurn operation
    · rfl
  unfold resume
  split
  · exact turn _ _
  · exact nextOperation_advance .ensure _ input
  · rfl
  · exact nextOperation_lineUp _
  · exact turn _ _
  · simp [openSession, attempting]
  · exact nextOperation_advance .reattach _ input
  · rfl
  · split
    · simp
    · rfl
  · exact turn _ _
  · unfold takeLease
    split <;> rfl
  · unfold awaitRecovery
    split
    · rfl
    · split <;> rfl
  · rfl

theorem nextOperation_slotOf (m : Manager) (target : String) :
    (m.slotOf target).1.nextOperation = m.nextOperation := by
  unfold slotOf
  split <;> rfl

theorem nextOperation_release (m : Manager) (lease : OperationId) :
    (m.release lease).nextOperation = m.nextOperation := by
  unfold release
  split
  · exact nextOperation_leaveScripts
  · rfl

theorem nextOperation_abandon (m : Manager) (id : OperationId) :
    (m.abandon id).nextOperation = m.nextOperation := by
  unfold abandon
  split
  · simp
  · simp
  · simp
  · exact nextOperation_leaveScripts
  · rfl
  · rfl

/-- A call that begins and lines up is the only new operation. -/
theorem enter_begun (sound : Sound m) {entering : Operation} (known : (m.slot i).known = true)
    (home : (m.slot i).target = target)
    (call : entering = .ensure i .inLine ∨ entering = .detach i .inLine)
    (free : m.nextOperation ≤ id)
    (here : ((m.begin entering).1.lineUp now i m.nextOperation entering).1.operation? id =
      some operation) :
    operation.aim = entering.aim ∧
      (((m.begin entering).1.lineUp now i m.nextOperation entering).1.slot i).target = target := by
  have enters : Does m (.enters m.nextOperation entering) _ := .enters i entering known call
  have entered : (((m.begin entering).1.joinAttachLine i m.nextOperation).setOperation
      m.nextOperation entering).operation? m.nextOperation = some entering :=
    operation?_replaced entering (operation?_begun entering sound.crew.fresh)
  have soundToo := enters.sound sound
  have shape : entering.slot = i ∧ entering.stage? = some .inLine := by
    rcases call with rfl | rfl <;> exact ⟨rfl, rfl⟩
  have goes : Goes _ m.nextOperation ((m.begin entering).1.lineUp now i m.nextOperation entering) :=
    tryTurn_goes entered shape.1 shape.2
  obtain ⟨_, ⟨acts, _⟩, _⟩ := goes
  obtain ⟨_, done⟩ := acts.deeds
  have still : id < m.nextOperation + 1 := by
    have numbered := (acts.sound soundToo).crew.numbered id operation here
    rwa [nextOperation_lineUp] at numbered
  obtain rfl : id = m.nextOperation := Nat.le_antisymm (Nat.le_of_lt_succ still) free
  obtain ⟨earlier, there, same⟩ := done.aim soundToo (Nat.lt_succ_self _) here
  have inside := enters.keepsSlots sound (inside_of_known known)
  rw [entered] at there
  cases there
  exact ⟨same.symm, (done.keepsSlots soundToo inside.1).2.1.trans (inside.2.1.trans home)⟩

theorem startReattach_begun (sound : Sound m) {session : String} (free : m.nextOperation ≤ id)
    (here : (m.startReattach i session).operation? id = some operation) :
    operation = .reattach i .fresh := by
  have fresh := sound.crew.fresh
  have unnumbered : m.operation? id ≠ some operation :=
    fun taken => Nat.not_lt.mpr free (sound.crew.numbered id operation taken)
  unfold startReattach at here
  split at here
  · simp only [operation?_wake] at here
    rw [operation?_begin (m := m.publish i .reattaching) _ fresh] at here
    split at here
    · exact (Option.some.inj here).symm
    · exact absurd here unnumbered
  · exact absurd here unnumbered

theorem recover_begun (sound : Sound m) {stale : SessionHandle} (free : m.nextOperation ≤ id)
    (here : (m.recover now stale).1.operation? id = some operation) :
    operation.call? target = none := by
  have made := (slotOf_quietly m stale.targetId).sound sound
  have fresh := restarted_fresh sound stale
  have later : (m.recover now stale).1.operation? id = some operation →
      (m.restarted stale).operation? id = some operation ∨ operation.call? target = none := by
    intro here
    obtain ⟨i, deadline, same | same⟩ := recover_cases m now stale
    · rw [same, operation?_begin _ fresh] at here
      split at here
      · cases here
        exact .inr rfl
      · exact .inl here
    · rw [same, operation?_finish, operation?_begin _ fresh] at here
      split at here
      · cases here
      · exact .inl here
  rcases later here with before | silent
  · rw [← nextOperation_slotOf m stale.targetId] at free
    unfold Manager.restarted at before
    simp only at before
    split at before
    · rw [startReattach_begun made free before]
      rfl
    · exact absurd (made.crew.numbered id operation before) (Nat.not_lt.mpr free)
  · exact silent

/-- Who is in the middle of a call, and was not so before a move, has begun the call with it. -/
theorem call_begun (sound : Sound m) (allowed : m.Allows move) (free : m.nextOperation ≤ id)
    (here : (m.move now move).1.operation? id = some operation)
    (call : operation.call? (((m.move now move).1.slot operation.slot).target) = some begun) :
    move = begun := by
  have still : Sound (m.move now move).1 := by
    obtain ⟨_, effect, _⟩ := move_effect now sound allowed
    exact effect.acts.sound sound
  have numbered := still.crew.numbered id operation here
  have unchanged : (m.move now move).1.nextOperation = m.nextOperation → move = begun :=
    fun same => absurd (same ▸ numbered) (Nat.not_lt.mpr free)
  have made := fun target => (slotOf_quietly m target).sound sound
  cases move with
  | ensure target =>
    obtain ⟨known, home⟩ := slotOf_known m target
    rw [← nextOperation_slotOf m target] at free
    simp only [Manager.move, ensure] at here call
    split at here
    · exact absurd ((made target).crew.numbered id operation here) (Nat.not_lt.mpr free)
    · next unattached =>
      simp only [unattached] at call
      obtain ⟨same, named⟩ := enter_begun (made target) known home (.inl rfl) free here
      rw [Operation.call?_of_aim same, Operation.slot_of_aim same] at call
      exact (congrArg Move.ensure named).symm.trans (Option.some.inj call)
  | detach target =>
    obtain ⟨known, home⟩ := slotOf_known m target
    rw [← nextOperation_slotOf m target] at free
    simp only [Manager.move, detach] at here call
    obtain ⟨same, named⟩ := enter_begun (made target) known home (.inr rfl) free here
    rw [Operation.call?_of_aim same, Operation.slot_of_aim same] at call
    exact (congrArg Move.detach named).symm.trans (Option.some.inj call)
  | acquire target =>
    have fresh := (made target).crew.fresh
    obtain ⟨known, home⟩ := slotOf_known m target
    have inside := inside_of_known known
    rw [← nextOperation_slotOf m target] at free
    have begins : operation = .acquire (m.slotOf target).2 := by
      simp only [Manager.move, acquire_eq, operation?_takeLease] at here
      rw [operation?_queued fresh] at here
      split at here
      · exact (Option.some.inj here).symm
      · exact absurd ((made target).crew.numbered id operation here) (Nat.not_lt.mpr free)
    subst begins
    have named : ((m.move now (.acquire target)).1.slot (m.slotOf target).2).target = target := by
      simp only [Manager.move, acquire_eq]
      grind
    rw [Operation.slot, named] at call
    exact Option.some.inj call
  | recover stale =>
    rw [recover_begun sound free here] at call
    cases call
  | resume id input => exact unchanged (nextOperation_resume m now id input)
  | release lease => exact unchanged (nextOperation_release m lease)
  | abandon id => exact unchanged (nextOperation_abandon m id)
  | notice event =>
    cases event with
    | detached other session reason =>
      simp only [Manager.move, notice] at here unchanged
      split at here
      · next i found =>
        unfold noticeDetach at here
        split at here
        · split at here
          · rw [startReattach_begun sound free here] at call
            cases call
          · exact absurd (sound.crew.numbered id operation here) (Nat.not_lt.mpr free)
        · exact absurd (sound.crew.numbered id operation here) (Nat.not_lt.mpr free)
      · exact absurd (sound.crew.numbered id operation here) (Nat.not_lt.mpr free)
    | targetClosed other =>
      refine unchanged ?_
      simp only [Manager.move, notice]
      split
      · exact nextOperation_noticeClose
      · rfl
    | disconnected => exact unchanged rfl

/-- A call that is under way after a move has been so before, or begins with it. -/
theorem call_of_move (sound : Sound m) (allowed : m.Allows move)
    (here : (m.move now move).1.operation? id = some operation)
    (call : operation.call? (((m.move now move).1.slot operation.slot).target) = some begun) :
    (∃ earlier, m.operation? id = some earlier ∧ earlier.aim = operation.aim) ∨ move = begun := by
  by_cases old : id < m.nextOperation
  · exact .inl (move_aim sound allowed old here)
  · exact .inr (call_begun sound allowed (Nat.le_of_not_lt old) here call)

end BrowserScript.Session

import BrowserScript.Proofs.Session.Standstill

/-!
# While a lease is wanted

From when somebody has lined up for the lease of a target until it gives the lease back, the target
keeps its slot, so every slot of the target that is not known had been forgotten before. An
operation is over when its caller is told so, and a handle that is given has been published. Main
definitions: `Session.Lodged`, `Session.Ended`, `Manager.Clears`, `Session.KeepsAlive`. Main
results: `Session.Lodged.moved`, `Session.Lodged.still`, `Session.Reaches.keepsAlive`.
-/

set_option autoImplicit false

namespace BrowserScript.Session

open Manager

variable {settings : Settings} {m middle after early : Manager} {deed : Deed} {i j : SlotId}
  {id lease : OperationId} {now : Nat} {move : Move} {target : String}

/-! ## Slots under a lease -/

/-- The lease is one of a slot of the target, and all slots of the target that are not known had
been forgotten early on. -/
structure Lodged (early : Manager) (target : String) (lease : OperationId) (m : Manager) :
    Prop where
  past : Outlived early m
  leased : ∃ i, m.operation? lease = some (.acquire i) ∧ (m.slot i).target = target
  others : ∀ i, i < m.slots.length → (m.slot i).target = target → (m.slot i).known = false →
    early.Forgot i

/-- A target that has a slot gets no other one. -/
theorem Does.slots_of_known (does : Does m deed after) (known : (m.slot i).known = true)
    (inside : j < after.slots.length) (same : (after.slot j).target = (m.slot i).target) :
    j < m.slots.length := by
  cases does with
  | makes target missing =>
    have other := find?_none missing known
    grind
  | _ => grind

/-- While a lease is wanted, the target of its slot gets no other slot. -/
theorem Deeds.slots_of_lease {deeds : List Deed} (done : Deeds m deeds after) (sound : Sound m)
    (old : lease < m.nextOperation) (here : after.operation? lease = some (.acquire i))
    (inside : j < after.slots.length) (same : (after.slot j).target = (m.slot i).target) :
    m.operation? lease = some (.acquire i) ∧ j < m.slots.length := by
  induction done with
  | none m => exact ⟨here, inside⟩
  | @next m middle after deed rest does further induction =>
    have acquire_of_aim : ∀ {one : Operation}, one.aim = (Operation.acquire i).aim →
        one = .acquire i := by
      intro one same
      cases one <;> simp_all [Operation.aim]
    have still := does.sound sound
    have oldToo := Nat.lt_of_lt_of_le old does.nextOperation_le
    obtain ⟨_, between, aim⟩ := further.aim still oldToo here
    obtain rfl := acquire_of_aim aim
    obtain ⟨_, before, aim⟩ := does.aim sound old between
    obtain rfl := acquire_of_aim aim
    have known : (m.slot i).known = true := sound.homes.kept lease _ before rfl
    obtain ⟨insideToo, home, _⟩ := does.keepsSlots sound (inside_of_known known)
    obtain ⟨_, within⟩ := induction still oldToo here inside (same.trans home.symm)
    have homeToo := (further.keepsSlots still within).2.1
    exact ⟨before, does.slots_of_known known within (homeToo.symm.trans same)⟩

theorem Affects.keepsLease (affects : Affects m now move) (sound : Sound m)
    (here : m.operation? lease = some (.acquire i)) (keeps : move ≠ .release lease) :
    (m.move now move).1.operation? lease = some (.acquire i) := by
  cases affects with
  | nothing mover _ other spares =>
    refine spares.kept lease _ ?_ here
    rintro rfl
    exact other i here
  | queues target =>
    have fresh := ((slotOf_quietly m target).sound sound).crew.fresh
    have kept := (Spares.slotOf (m := m) m.nextOperation target).kept
    have free := sound.crew.fresh
    simp only [Manager.move, acquire_eq]
    grind
  | takes mover input j there =>
    simp only [Manager.move, resume, there]
    exact operation?_takeLease.trans here
  | returns other j there =>
    have different : lease ≠ other := fun same => keeps (same ▸ rfl)
    simp only [Manager.move, release, there]
    grind

theorem abandon_lease (here : m.operation? lease = some (.acquire i)) (other : id ≠ lease) :
    (m.abandon id).operation? lease = some (.acquire i) := by
  unfold abandon
  split <;> grind

/-- A lease is wanted until it is given back. -/
theorem lease_kept (now : Nat) (sound : Sound m) (allowed : m.Allows move)
    (here : m.operation? lease = some (.acquire i)) (keeps : move ≠ .release lease)
    (waits : move ≠ .abandon lease) :
    (m.move now move).1.operation? lease = some (.acquire i) := by
  by_cases patient : move.isPatient = true
  · exact (move_affects now sound allowed patient).keepsLease sound here keeps
  · cases move with
    | abandon id => exact abandon_lease here fun same => waits (same ▸ rfl)
    | _ => exact absurd rfl patient

theorem Lodged.moved (now : Nat) (lodged : Lodged early target lease m) (sound : Sound m)
    (allowed : m.Allows move) (keeps : move ≠ .release lease) (waits : move ≠ .abandon lease) :
    Lodged early target lease (m.move now move).1 := by
  obtain ⟨past, ⟨i, here, home⟩, others⟩ := lodged
  obtain ⟨_, effect, _⟩ := move_effect now sound allowed
  obtain ⟨_, done⟩ := effect.acts.deeds
  have still := effect.acts.sound sound
  have hereToo := lease_kept now sound allowed here keeps waits
  have known : (m.slot i).known = true := sound.homes.kept lease _ here rfl
  have knownToo := still.homes.kept lease _ hereToo rfl
  have homeToo := (move_keepsSlots now sound allowed (inside_of_known known)).2.1
  refine ⟨move_outlived now sound allowed past, ⟨i, hereToo, homeToo.trans home⟩, ?_⟩
  intro j inside same unknown
  have insideBefore := (done.slots_of_lease sound (sound.crew.numbered lease _ here) hereToo inside
    (same.trans home.symm)).2
  have sameBefore := (move_keepsSlots now sound allowed insideBefore).2.1
  by_cases knownBefore : (m.slot j).known = true
  · obtain rfl := sound.homes.single i j known knownBefore
      (home.trans (same.symm.trans sameBefore))
    cases knownToo.symm.trans unknown
  · exact others j insideBefore (sameBefore.symm.trans same) (Bool.not_eq_true _ ▸ knownBefore)

/-- Who lines up for the lease of a target lodges with it. -/
theorem Lodged.acquire (sound : Sound m) (target : String) :
    Lodged (m.acquire target).1 target (m.acquire target).2.1 (m.acquire target).1 := by
  have fresh := ((slotOf_quietly m target).sound sound).crew.fresh
  obtain ⟨known, home⟩ := slotOf_known m target
  refine ⟨.refl _, ⟨(m.slotOf target).2, ?_, ?_⟩, fun i inside _ unknown => ⟨inside, unknown⟩⟩
  · simp only [acquire_eq]
    grind
  · simp only [acquire_eq]
    grind

/-- A target that has been lodged with and that nobody wants stands still once it is detached. -/
theorem Lodged.still (lodged : Lodged early target lease m) (sound : Sound m)
    (unwanted : m.Unwanted target) (detached : m.stateOf target = .detached) :
    Still early target m :=
  .of_stateOf sound lodged.past unwanted detached lodged.others

/-! ## The end of an operation -/

/-- An operation that is not about a lease is over when its caller is told so. -/
def Ended (id : OperationId) (next : Manager × Wait) : Prop :=
  ∀ outcome, next.2 = .over outcome → (∀ lease, outcome ≠ .acquired lease) →
    next.1.operation? id = none

namespace Ended

theorem finished (m : Manager) (id : OperationId) (wait : Wait) : Ended id (m.finish id, wait) := by
  intro _ _ _
  rw [operation?_finish, if_pos rfl]

theorem waits {wait : Wait} (more : wait.isOver = false) : Ended id (m, wait) := by
  rintro _ ⟨⟩
  cases more

theorem takeTurn (operation : Operation) : Ended id (m.takeTurn now i id operation) := by
  cases operation with
  | ensure =>
    simp only [Manager.takeTurn]
    split
    · exact .finished _ _ _
    · exact .waits rfl
  | reattach | detach =>
    simp only [Manager.takeTurn]
    split
    · exact .waits rfl
    · exact .finished _ _ _
  | acquire | recover => exact .waits rfl

theorem tryTurn (operation : Operation) : Ended id (m.tryTurn now i id operation) := by
  unfold Manager.tryTurn
  split
  · exact .takeTurn operation
  · exact .waits rfl

theorem advance (purpose : Purpose) (attempt : Attempt) (input : Input) :
    Ended id (m.advance now purpose i id attempt input) := by
  have succeeds : ∀ session, Ended id (m.succeed purpose i id session) :=
    fun _ => .finished _ _ _
  unfold Manager.advance
  split
  · exact .waits rfl
  · exact .finished _ _ _
  · exact .waits rfl
  · split
    · exact succeeds _
    · exact .finished _ _ _
    · exact .waits rfl
    · split
      · exact succeeds _
      · exact .waits rfl
  · exact .waits rfl
  · exact .waits rfl
  · exact .finished _ _ _
  · exact .waits rfl

theorem resume (m : Manager) (now : Nat) (id : OperationId) (input : Input) :
    Ended id (m.resume now id input) := by
  unfold Manager.resume
  split
  · exact .tryTurn _
  · exact .advance _ _ _
  · exact .waits rfl
  · exact .tryTurn _
  · exact .tryTurn _
  · exact .waits rfl
  · exact .advance _ _ _
  · exact .waits rfl
  · split
    · exact .finished _ _ _
    · exact .waits rfl
  · exact .tryTurn _
  · intro outcome told other
    rcases told_takeLease_cases m _ id with same | same
    · cases same.symm.trans told
    · cases same.symm.trans told
      exact absurd rfl (other id)
  · unfold awaitRecovery
    split
    · exact .finished _ _ _
    · split
      · exact .finished _ _ _
      · exact .waits rfl
  · exact .waits rfl

theorem ensure (sound : Sound m) (now : Nat) (target : String) :
    Ended (m.ensure now target).2.1 ((m.ensure now target).1, (m.ensure now target).2.2) := by
  have made := (slotOf_quietly m target).sound sound
  unfold Manager.ensure
  simp only
  split
  · exact fun _ _ _ => made.crew.fresh
  · exact .tryTurn _

end Ended

/-! ## Calls under way -/

/-- As long as it is not over, the operation is a call to detach from the target. -/
structure Manager.Clears (m : Manager) (id : OperationId) (target : String) : Prop where
  numbered : id < m.nextOperation
  waits : ∀ operation, m.operation? id = some operation →
    ∃ i stage, operation = .detach i stage ∧ (m.slot i).target = target

theorem Manager.Clears.moved (now : Nat) (clears : m.Clears id target) (sound : Sound m)
    (allowed : m.Allows move) : (m.move now move).1.Clears id target := by
  obtain ⟨numbered, waits⟩ := clears
  refine ⟨Nat.lt_of_lt_of_le numbered ?_, fun operation here => ?_⟩
  · obtain ⟨_, effect, _⟩ := move_effect now sound allowed
    obtain ⟨_, done⟩ := effect.acts.deeds
    exact done.nextOperation_le
  · obtain ⟨_, there, same⟩ := move_aim sound allowed numbered here
    obtain ⟨i, stage, rfl, home⟩ := waits _ there
    obtain ⟨later, rfl⟩ := Operation.aim_eq_detach.mp same.symm
    have inside := sound.crew.placed id _ there
    exact ⟨i, later, rfl, (move_keepsSlots now sound allowed inside).2.1.trans home⟩

theorem detach_clears (sound : Sound m) (now : Nat) (target : String) :
    (m.detach now target).1.Clears (m.detach now target).2.1 target := by
  have made := (slotOf_quietly m target).sound sound
  obtain ⟨known, home⟩ := slotOf_known m target
  unfold Manager.detach
  refine ⟨?_, fun operation here => ?_⟩
  · simp only [nextOperation_lineUp]
    exact Nat.lt_succ_self _
  · obtain ⟨same, homeToo⟩ := enter_begun made known home (.inr rfl) (Nat.le_refl _) here
    obtain ⟨stage, rfl⟩ := Operation.aim_eq_detach.mp same
    exact ⟨_, stage, rfl, homeToo⟩

/-- Who is in the middle of a call that wants a session has been so before, unless the call begins
with the move. -/
theorem ensure_before (now : Nat) (sound : Sound m) (allowed : m.Allows move) {stage : Stage}
    (here : (m.move now move).1.operation? id = some (.ensure i stage))
    (other : move ≠ .ensure ((m.move now move).1.slot i).target) :
    ∃ before, m.operation? id = some (.ensure i before) ∧
      (m.slot i).target = ((m.move now move).1.slot i).target := by
  rcases call_of_move sound allowed here rfl with ⟨earlier, there, same⟩ | begun
  · obtain ⟨before, rfl⟩ := Operation.aim_eq_ensure.mp same
    obtain ⟨_, home, _⟩ := move_keepsSlots now sound allowed (sound.crew.placed id _ there)
    exact ⟨before, there, home.symm⟩
  · exact absurd begun other

/-- Only the call itself begins to want a session with it. -/
theorem ensure_begun (sound : Sound m) (free : m.nextOperation ≤ id) {operation : Operation}
    (here : (m.ensure now target).1.operation? id = some operation) :
    id = (m.ensure now target).2.1 := by
  have made := (slotOf_quietly m target).sound sound
  have still : Sound (m.ensure now target).1 := by
    have allowed : m.Allows (.ensure target) := trivial
    obtain ⟨_, effect, _⟩ := move_effect now sound allowed
    exact effect.acts.sound sound
  have numbered := still.crew.numbered id operation here
  rw [← nextOperation_slotOf m target] at free
  unfold Manager.ensure at here numbered ⊢
  simp only at here numbered ⊢
  split
  · next attached =>
    simp only [attached] at numbered
    exact absurd numbered (Nat.not_lt.mpr free)
  · next unattached =>
    simp only [unattached, nextOperation_lineUp] at numbered
    exact Nat.le_antisymm (Nat.le_of_lt_succ numbered) free

/-! ## Handles that are given -/

theorem recovery_some {stale handle : SessionHandle} {state : SessionState}
    (recovered : recovery stale state = some (some handle)) : state = .attached handle := by
  cases state with
  | attached other =>
    rw [recovery] at recovered
    split at recovered
    · cases recovered
      rfl
    · cases recovered
  | detached | attaching | reattaching => cases recovered

/-- What a call to recover returns at once is published. -/
theorem recover_published {stale handle : SessionHandle}
    (told : (m.recover now stale).2 = (id, .over (.recovered (some handle)))) :
    ∃ i, ((m.recover now stale).1.slot i).state = .attached handle := by
  rw [recover_eq] at told ⊢
  dsimp only at told ⊢
  split at told
  · next result recovered =>
    cases told
    exact ⟨_, recovery_some recovered⟩
  · cases told

/-- What a call to recover returns in the end is published. -/
theorem resume_published {stale handle : SessionHandle} {input : Input} (seeks : m.Seeks id stale)
    (allowed : m.Allows (.resume id input))
    (told : (m.resume now id input).2 = .over (.recovered (some handle))) :
    ∃ i, ((m.resume now id input).1.slot i).state = .attached handle := by
  obtain ⟨operation, here, _⟩ := allowed
  obtain ⟨i, deadline, rfl, _⟩ := seeks.waits operation here
  simp only [resume, here, awaitRecovery] at told ⊢
  split at told
  · next result recovered =>
    cases told
    exact ⟨i, recovery_some recovered⟩
  · split at told <;> cases told

/-- What a call that wants a session returns is published. -/
theorem attached_published (sound : Sound m) (allowed : m.Allows move) {handle : SessionHandle}
    (told : (m.move now move).2 = some (id, .over (.attached (.ok handle)))) :
    ∃ i, ((m.move now move).1.slot i).state = .attached handle := by
  obtain ⟨_, effect, _⟩ := move_effect now sound allowed
  obtain ⟨target, _, state, _⟩ := move_returns sound allowed told
  obtain ⟨i, _, _, shown⟩ := known_of_stateOf (effect.acts.sound sound)
    (by rw [state]; exact nofun)
  exact ⟨i, shown.trans state⟩

/-- What the manager has been set to does not change. -/
theorem Does.configuration (does : Does m deed after) :
    after.settings = m.settings ∧ after.interval = m.interval ∧ after.keepAlive = m.keepAlive := by
  cases does with
  | leavesScripts =>
    unfold leaveScripts
    simp only
    split <;> exact ⟨rfl, rfl, rfl⟩
  | closes =>
    unfold noticeClose forget
    simp only
    repeat' split
    all_goals exact ⟨rfl, rfl, rfl⟩
  | _ => exact ⟨rfl, rfl, rfl⟩

/-- Whether sessions stay is settled from the start. -/
structure KeepsAlive (keep : Bool) (m : Manager) : Prop where
  manager : m.keepAlive = keep
  handles : ∀ i handle, (m.slot i).state = .attached handle → handle.keepAlive = keep

theorem Does.keepsAlive {keep : Bool} (does : Does m deed after) (keeps : KeepsAlive keep m) :
    KeepsAlive keep after := by
  obtain ⟨manager, handles⟩ := keeps
  constructor
  · obtain ⟨_, _, same⟩ := does.configuration
    exact same.trans manager
  · cases does with
    | makes target missing =>
      have idle : ∀ handle, (default : Slot).state ≠ .attached handle := nofun
      grind
    | closes => grind [closed_eq, SessionState.handle?]
    | _ => grind [concluded, granted]

theorem Reaches.keepsAlive (reaches : Reaches settings now m) :
    KeepsAlive settings.keepAlive m := by
  induction reaches with
  | start =>
    refine ⟨rfl, fun i handle attached => ?_⟩
    rw [slot_outside (Nat.zero_le i)] at attached
    cases attached
  | wait _ _ induction => exact induction
  | move move reached allowed induction =>
    obtain ⟨_, effect, _⟩ := move_effect _ reached.sound allowed
    obtain ⟨_, done⟩ := effect.acts.deeds
    exact done.invariant (fun _ _ _ does keeps => does.keepsAlive keeps) induction

end BrowserScript.Session

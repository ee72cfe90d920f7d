import BrowserScript.Proofs.Session.Passage

/-!
# Leases of scripts

A slot says that a script runs on it only while somebody has been given the lease and has not given
it back, and only then a lost session is replaced. Main definitions: `Session.Spares`,
`Session.Leased`. Main results: `Session.Runs.leased`, `Session.Runs.lost_leased`.
-/

set_option autoImplicit false

namespace BrowserScript.Session

open Manager

variable {m middle after : Manager} {i j : SlotId} {id other : OperationId} {now : Nat}

/-! ## What leaves the scripts alone -/

/-- Nothing is done to the lines of scripts nor to operations other than the given one, and sessions
are lost only under scripts. -/
structure Spares (m : Manager) (id : OperationId) (after : Manager) : Prop where
  scripts : ∀ i, (after.slot i).running = (m.slot i).running ∧
    (after.slot i).scriptLine = (m.slot i).scriptLine
  lost : ∀ i, (after.slot i).state = .reattaching →
    (m.slot i).state = .reattaching ∨ (m.slot i).running = true
  kept : ∀ other operation, other ≠ id → m.operation? other = some operation →
    after.operation? other = some operation
  leases : ∀ other i, after.operation? other = some (.acquire i) →
    m.operation? other = some (.acquire i)

namespace Spares

theorem refl (m : Manager) (id : OperationId) : Spares m id m := by
  constructor <;> grind

theorem trans (early : Spares m id middle) (late : Spares middle id after) :
    Spares m id after := by
  obtain ⟨scripts, lost, kept, leases⟩ := early
  obtain ⟨scripts', lost', kept', leases'⟩ := late
  constructor <;> grind

theorem publish {state : SessionState} (calm : state ≠ .reattaching) :
    Spares m id (m.publish i state) := by
  constructor <;> grind

theorem loses (running : (m.slot i).running = true) :
    Spares m id (m.publish i .reattaching) := by
  constructor <;> grind

theorem joinAttachLine : Spares m id (m.joinAttachLine i other) := by
  constructor <;> grind

theorem leaveAttachLine : Spares m id (m.leaveAttachLine i other) := by
  constructor <;> grind

theorem setOperation {operation : Operation} (staged : operation.stage?.isSome = true) :
    Spares m id (m.setOperation id operation) := by
  have apart : ∀ i, operation ≠ .acquire i := by
    rintro i rfl
    cases staged
  constructor <;> grind [Option.map_eq_some_iff]

theorem finish : Spares m id (m.finish id) := by
  constructor <;> grind

theorem begins (id : OperationId) {operation : Operation}
    (fresh : m.operation? m.nextOperation = none)
    (other : ∀ i, operation ≠ .acquire i) : Spares m id (m.begin operation).1 := by
  constructor <;> grind

theorem wake (ids : List OperationId) : Spares m id (m.wake ids) := by
  constructor <;> grind

theorem slotOf (id : OperationId) (target : String) : Spares m id (m.slotOf target).1 := by
  unfold Manager.slotOf
  split
  · exact .refl m id
  · have idle : m.slot m.slots.length = default := slot_outside (Nat.le_refl _)
    have unqueued : (default : Slot).scriptLine = [] := rfl
    have still : (default : Slot).running = false := rfl
    constructor <;> grind

/-- Nobody had a number that is free afterwards. -/
theorem fresh (spares : Spares m id after) (free : m.operation? id = none)
    (freeToo : after.operation? other = none) : m.operation? other = none := by
  by_contra taken
  obtain ⟨operation, here⟩ := Option.ne_none_iff_exists'.mp taken
  have different : other ≠ id := by
    rintro rfl
    exact taken free
  rw [spares.kept other operation different here] at freeToo
  cases freeToo

/-- An operation ends and leaves the line of those who attach or detach. -/
theorem ends : Spares m id ((m.leaveAttachLine i id).finish id) :=
  leaveAttachLine.trans finish

end Spares

/-! ## Operations that go on -/

theorem conclude_spares (purpose : Purpose) (result : Except PageError SessionHandle) :
    Spares m id (m.conclude purpose i id result).1 := by
  have calm : concluded result ≠ .reattaching := by cases result <;> exact nofun
  have shown : (m.conclude purpose i id result).1 =
      ((m.publish i (concluded result)).leaveAttachLine i id).finish id := by
    cases result <;> rfl
  rw [shown]
  exact (Spares.publish calm).trans .ends

theorem succeed_spares (purpose : Purpose) (session : String) :
    Spares m id (m.succeed purpose i id session).1 := by
  have counted : Spares m id { m with generation := m.generation + 1 } :=
    ⟨fun _ => ⟨rfl, rfl⟩, fun _ => .inl, fun _ _ _ here => here, fun _ _ here => here⟩
  exact counted.trans (conclude_spares purpose _)

theorem attempting_spares (purpose : Purpose) (attempt : Attempt) (wait : Wait) :
    Spares m id (m.attempting purpose i id attempt wait).1 :=
  .setOperation (by cases purpose <;> rfl)

theorem advance_spares (purpose : Purpose) (attempt : Attempt) (input : Input) :
    Spares m id (m.advance now purpose i id attempt input).1 := by
  unfold advance
  split
  · exact attempting_spares purpose _ _
  · exact conclude_spares purpose _
  · exact .refl m id
  · split
    · exact succeed_spares purpose _
    · exact conclude_spares purpose _
    · exact attempting_spares purpose _ _
    · split
      · exact succeed_spares purpose _
      · exact attempting_spares purpose _ _
  · exact .refl m id
  · exact attempting_spares purpose _ _
  · exact conclude_spares purpose _
  · exact .refl m id

theorem takeTurn_spares (operation : Operation) :
    Spares m id (m.takeTurn now i id operation).1 := by
  have attaching : SessionState.attaching ≠ .reattaching := nofun
  have detached : SessionState.detached ≠ .reattaching := nofun
  cases operation with
  | ensure j stage =>
    simp only [takeTurn]
    split
    · exact .ends
    · exact (Spares.publish attaching).trans (attempting_spares .ensure _ _)
  | reattach j stage =>
    simp only [takeTurn]
    split
    · exact .setOperation rfl
    · exact .ends
  | detach j stage =>
    simp only [takeTurn]
    split
    · exact (Spares.publish detached).trans (.setOperation rfl)
    · exact (Spares.publish detached).trans .ends
  | acquire | recover => exact .refl m id

theorem tryTurn_spares (operation : Operation) :
    Spares m id (m.tryTurn now i id operation).1 := by
  unfold tryTurn
  split
  · exact takeTurn_spares operation
  · exact .refl m id

theorem lineUp_spares {operation : Operation} (staged : operation.stage?.isSome = true) :
    Spares m id (m.lineUp now i id operation).1 :=
  Spares.joinAttachLine.trans ((Spares.setOperation staged).trans (tryTurn_spares operation))

theorem awaitRecovery_spares (stale : SessionHandle) (deadline : Nat) :
    Spares m id (m.awaitRecovery now i id stale deadline).1 := by
  unfold awaitRecovery
  split
  · exact .finish
  · split
    · exact .finish
    · exact .refl m id

theorem resume_spares {operation : Operation} (here : m.operation? id = some operation)
    (other : ∀ i, operation ≠ .acquire i) (input : Input) :
    Spares m id (m.resume now id input).1 := by
  unfold resume
  rw [here]
  cases operation with
  | ensure i stage =>
    cases stage with
    | inLine => exact tryTurn_spares _
    | attempting attempt => exact advance_spares .ensure attempt input
    | fresh | backoff | detaching => exact .refl m id
  | reattach i stage =>
    cases stage with
    | fresh => exact lineUp_spares rfl
    | inLine => exact tryTurn_spares _
    | backoff => exact attempting_spares .reattach _ _
    | attempting attempt => exact advance_spares .reattach attempt input
    | detaching => exact .refl m id
  | detach i stage =>
    cases stage with
    | detaching =>
      cases input with
      | closed answer => exact .ends
      | turn | attached | probed => exact .refl m id
    | inLine | fresh | backoff | attempting => exact tryTurn_spares _
  | acquire i => exact absurd rfl (other i)
  | recover i stale deadline => exact awaitRecovery_spares stale deadline

/-! ## Beginnings and events -/

theorem enter_spares {operation : Operation} (fresh : m.operation? m.nextOperation = none)
    (staged : operation.stage?.isSome = true) :
    Spares m m.nextOperation
      ((m.begin operation).1.lineUp now i m.nextOperation operation).1 := by
  have other : ∀ i, operation ≠ .acquire i := by
    rintro i rfl
    cases staged
  exact (Spares.begins _ fresh other).trans (lineUp_spares staged)

theorem ensure_spares (sound : Sound m) (target : String) :
    Spares m (m.slotOf target).1.nextOperation (m.ensure now target).1 := by
  have fresh := ((slotOf_quietly m target).sound sound).crew.fresh
  refine (Spares.slotOf _ target).trans ?_
  unfold ensure
  simp only
  split
  · exact .refl _ _
  · exact enter_spares fresh rfl

theorem detach_spares (sound : Sound m) (target : String) :
    Spares m (m.slotOf target).1.nextOperation (m.detach now target).1 := by
  have fresh := ((slotOf_quietly m target).sound sound).crew.fresh
  exact (Spares.slotOf _ target).trans (enter_spares fresh rfl)

theorem startReattach_spares (sound : Sound m) (running : (m.slot i).running = true)
    (session : String) : Spares m id (m.startReattach i session) := by
  unfold startReattach
  split
  · have fresh : (m.publish i .reattaching).operation? (m.publish i .reattaching).nextOperation =
        none := sound.crew.fresh
    exact (Spares.loses running).trans
      ((Spares.begins id fresh fun _ => Operation.noConfusion).trans (.wake _))
  · exact .refl m id

/-- A recovery has begun to replace the session, if there is a script to save. -/
def Manager.restarted (m : Manager) (stale : SessionHandle) : Manager :=
  let (m, i) := m.slotOf stale.targetId
  if (m.slot i).running then m.startReattach i stale.sessionId else m

theorem restarted_spares (id : OperationId) (sound : Sound m) (stale : SessionHandle) :
    Spares m id (m.restarted stale) := by
  have made := (slotOf_quietly m stale.targetId).sound sound
  refine (Spares.slotOf id stale.targetId).trans ?_
  unfold restarted
  simp only
  split
  · next running => exact startReattach_spares made running stale.sessionId
  · exact .refl _ id

theorem restarted_fresh (sound : Sound m) (stale : SessionHandle) :
    (m.restarted stale).operation? (m.restarted stale).nextOperation = none := by
  have made := (slotOf_quietly m stale.targetId).sound sound
  obtain ⟨_, acts, _⟩ := restarted_acts (slotOf_known m stale.targetId).1 stale.sessionId
  exact (acts.sound made).crew.fresh

/-- Then it watches for the new session, unless it is clear at once what comes. -/
theorem recover_cases (m : Manager) (now : Nat) (stale : SessionHandle) :
    ∃ i deadline, (m.recover now stale).1 =
        ((m.restarted stale).begin (.recover i stale deadline)).1 ∨
      (m.recover now stale).1 =
        ((m.restarted stale).begin (.recover i stale deadline)).1.finish
          (m.restarted stale).nextOperation := by
  refine ⟨(m.slotOf stale.targetId).2,
    now + (m.restarted stale).settings.recoverTimeoutMs.toNat, ?_⟩
  unfold recover
  simp only
  split
  · exact .inr rfl
  · exact .inl rfl

theorem recover_spares (now : Nat) (sound : Sound m) (stale : SessionHandle) :
    Spares m (m.restarted stale).nextOperation (m.recover now stale).1 := by
  have watches : ∀ i deadline, Spares (m.restarted stale) (m.restarted stale).nextOperation _ :=
    fun i deadline => Spares.begins _ (restarted_fresh sound stale)
      (fun _ => Operation.noConfusion : ∀ j, Operation.recover i stale deadline ≠ .acquire j)
  refine (restarted_spares _ sound stale).trans ?_
  obtain ⟨i, deadline, same | same⟩ := recover_cases m now stale
  · rw [same]
    exact watches i deadline
  · rw [same]
    exact (watches i deadline).trans .finish

theorem noticeClose_spares : Spares m id (m.noticeClose i) := by
  constructor <;> grind [closed_eq]

theorem notice_spares (sound : Sound m) (event : SessionEvent) :
    Spares m id (m.notice event) := by
  cases event with
  | detached target session reason =>
    simp only [notice]
    split
    · next i found =>
      unfold noticeDetach
      split
      · split
        · next running => exact startReattach_spares sound running session
        · exact .publish (by simp)
      · exact .refl m id
    · exact .refl m id
  | targetClosed target =>
    simp only [notice]
    split
    · exact noticeClose_spares
    · exact .refl m id
  | disconnected => exact .refl m id

/-! ## Moves -/

/-- Who runs the next script on a slot: the operation has what its line is for. -/
def Manager.First (m : Manager) (i : SlotId) (lease : OperationId) : Prop :=
  m.operation? lease = some (.acquire i) ∧ (m.slot i).scriptLine.head? = some lease

/-- What a move does to scripts. -/
inductive Affects (m : Manager) (now : Nat) : Move → Prop
  | nothing {move : Move} (id : OperationId)
      (whose : m.operation? id = none ∨ ∃ input, move = .resume id input)
      (other : ∀ i, m.operation? id ≠ some (.acquire i))
      (spares : Spares m id (m.move now move).1) : Affects m now move
  | queues (target : String) : Affects m now (.acquire target)
  | takes (id : OperationId) (input : Input) (i : SlotId)
      (here : m.operation? id = some (.acquire i)) : Affects m now (.resume id input)
  | returns (lease : OperationId) (i : SlotId) (here : m.operation? lease = some (.acquire i)) :
      Affects m now (.release lease)

theorem move_affects (now : Nat) {move : Move} (sound : Sound m) (allowed : m.Allows move)
    (patient : move.isPatient = true) : Affects m now move := by
  have fresh := sound.crew.fresh
  have freely : ∀ {id}, m.operation? id = none → Spares m id (m.move now move).1 →
      Affects m now move :=
    fun free spares => .nothing _ (.inl free) (fun _ => by rw [free]; exact nofun) spares
  have made := fun target => (slotOf_quietly m target).sound sound
  have free := fun target =>
    (Spares.slotOf m.nextOperation target).fresh fresh (made target).crew.fresh
  cases move with
  | ensure target => exact freely (free target) (ensure_spares sound target)
  | detach target => exact freely (free target) (detach_spares sound target)
  | acquire target => exact .queues target
  | recover stale =>
    have later := restarted_fresh sound stale
    exact freely ((restarted_spares _ sound stale).fresh fresh later)
      (recover_spares now sound stale)
  | resume id input =>
    obtain ⟨operation, here, _⟩ := allowed
    by_cases leases : ∃ i, operation = .acquire i
    · obtain ⟨i, rfl⟩ := leases
      exact .takes id input i here
    · push Not at leases
      refine .nothing id (.inr ⟨input, rfl⟩) (fun i same => ?_) (resume_spares here leases input)
      rw [here] at same
      exact leases i (Option.some.inj same)
  | release lease =>
    by_cases leases : ∃ i, m.operation? lease = some (.acquire i)
    · obtain ⟨i, here⟩ := leases
      exact .returns lease i here
    · refine freely fresh ?_
      have same : m.release lease = m := by
        unfold release
        split
        · next i here => exact absurd ⟨i, here⟩ leases
        · rfl
      simp only [Manager.move, same]
      exact .refl m _
  | abandon id => cases patient
  | notice event => exact freely fresh (notice_spares sound event)

@[grind =] theorem slot_takeLease : (m.takeLease i id).1.slot j =
    if i = j ∧ j < m.slots.length ∧ (m.slot j).scriptLine.hasTurn id then
      { m.slot j with running := true }
    else m.slot j := by
  unfold takeLease
  grind

@[grind =] theorem operation?_takeLease :
    (m.takeLease i id).1.operation? other = m.operation? other := by
  unfold takeLease
  split <;> rfl

theorem told_takeLease (turn : (m.slot i).scriptLine.hasTurn id = true) :
    (m.takeLease i id).2 = .over (.acquired id) := by
  unfold takeLease
  rw [if_pos turn]

theorem told_takeLease_cases (m : Manager) (i : SlotId) (id : OperationId) :
    (m.takeLease i id).2 = .turn ∨ (m.takeLease i id).2 = .over (.acquired id) := by
  unfold takeLease
  split
  · exact .inr rfl
  · exact .inl rfl

/-- Somebody has lined up to run a script. -/
def Manager.queued (m : Manager) (i : SlotId) : Manager :=
  (m.begin (.acquire i)).1.updateSlot i fun slot =>
    { slot with scriptLine := slot.scriptLine.join m.nextOperation }

theorem acquire_eq (m : Manager) (target : String) :
    m.acquire target =
      ((((m.slotOf target).1.queued (m.slotOf target).2).takeLease (m.slotOf target).2
          (m.slotOf target).1.nextOperation).1, (m.slotOf target).1.nextOperation,
        (((m.slotOf target).1.queued (m.slotOf target).2).takeLease (m.slotOf target).2
          (m.slotOf target).1.nextOperation).2) := rfl

@[grind =] theorem slot_queued : (m.queued i).slot j =
    if i = j ∧ j < m.slots.length then
      { m.slot j with scriptLine := (m.slot j).scriptLine.join m.nextOperation }
    else m.slot j :=
  slot_updateSlot _

@[grind =] theorem operation?_queued (fresh : m.operation? m.nextOperation = none) :
    (m.queued i).operation? id =
      if id = m.nextOperation then some (.acquire i) else m.operation? id :=
  operation?_begin _ fresh

@[simp, grind =] theorem length_queued : (m.queued i).slots.length = m.slots.length :=
  length_updateSlot _

namespace Affects

variable {move : Move} {lease : OperationId} {target : String}

/-- Who is first stays first until it gives the lease back. -/
theorem first (affects : Affects m now move) (sound : Sound m) (first : m.First i lease)
    (keeps : move ≠ .release lease) : (m.move now move).1.First i lease := by
  obtain ⟨here, front⟩ := first
  cases affects with
  | nothing id whose other spares =>
    obtain ⟨scripts, _, kept, _⟩ := spares
    have different : lease ≠ id := by
      rintro rfl
      exact other i here
    exact ⟨kept lease _ different here, (scripts i).2 ▸ front⟩
  | queues target =>
    have fresh := ((slotOf_quietly m target).sound sound).crew.fresh
    obtain ⟨scripts, _, kept, _⟩ := Spares.slotOf (m := m) m.nextOperation target
    have joined : ∀ id, ((m.slot i).scriptLine.join id).head? = some lease :=
      fun _ => Line.head?_join front
    have free := sound.crew.fresh
    simp only [Manager.move, acquire_eq]
    constructor <;> grind
  | takes id input j there =>
    simp only [Manager.move, resume, there]
    constructor <;> grind
  | returns other j there =>
    have different : lease ≠ other := fun same => keeps (same ▸ rfl)
    have stays := Line.head?_leave front different
    simp only [Manager.move, release, there]
    constructor <;> grind

/-- A script runs on a slot from when somebody takes the lease. -/
theorem running (affects : Affects m now move) (sound : Sound m)
    (running : ((m.move now move).1.slot i).running = true) :
    (m.slot i).running = true ∨ ∃ lease, (m.move now move).1.First i lease ∧
      (m.move now move).2 = some (lease, .over (.acquired lease)) := by
  cases affects with
  | nothing id whose other spares => exact .inl ((spares.scripts i).1 ▸ running)
  | queues target =>
    have fresh := ((slotOf_quietly m target).sound sound).crew.fresh
    have scripts := (Spares.slotOf (m := m) m.nextOperation target).scripts
    simp only [Manager.move, acquire_eq, First, Option.some.injEq, Prod.mk.injEq] at running ⊢
    grind [told_takeLease]
  | takes id input j there =>
    simp only [Manager.move, resume, there, First, Option.some.injEq, Prod.mk.injEq] at running ⊢
    grind [told_takeLease]
  | returns other j there =>
    simp only [Manager.move, release, there] at running
    grind

/-- No script runs when who was first has given the lease back. -/
theorem returned (sound : Sound m) (first : m.First i lease) :
    ((m.move now (.release lease)).1.slot i).running = false := by
  obtain ⟨here, front⟩ := first
  have inside : i < m.slots.length := sound.crew.placed lease _ here
  simp only [Manager.move, release, here]
  grind

/-- Who may lead a script has asked for the target. -/
theorem leases (affects : Affects m now move) (sound : Sound m)
    (here : (m.move now move).1.operation? lease = some (.acquire i)) :
    m.operation? lease = some (.acquire i) ∨ ∃ target wait, move = .acquire target ∧
      (m.move now move).2 = some (lease, wait) ∧ ((m.move now move).1.slot i).target = target := by
  cases affects with
  | nothing id whose other spares => exact .inl (spares.leases lease i here)
  | queues target =>
    have fresh := ((slotOf_quietly m target).sound sound).crew.fresh
    have leases := (Spares.slotOf (m := m) m.nextOperation target).leases
    have home := slotOf_known m target
    simp only [Manager.move, acquire_eq, Move.acquire.injEq, Option.some.injEq,
      Prod.mk.injEq] at here ⊢
    grind
  | takes id input j there =>
    simp only [Manager.move, resume, there] at here
    grind
  | returns other j there =>
    simp only [Manager.move, release, there] at here
    grind

/-- A session is lost under a script only. -/
theorem lost (affects : Affects m now move)
    (lost : ((m.move now move).1.slot i).state = .reattaching) :
    (m.slot i).state = .reattaching ∨ (m.slot i).running = true := by
  cases affects with
  | nothing id whose other spares => exact spares.lost i lost
  | queues target =>
    have spares := (Spares.slotOf (m := m) m.nextOperation target).lost
    simp only [Manager.move, acquire_eq] at lost
    grind
  | takes id input j there =>
    simp only [Manager.move, resume, there] at lost
    grind
  | returns other j there =>
    simp only [Manager.move, release, there] at lost
    grind

end Affects

/-! ## Leases in runs -/

namespace Passage

/-- The lease is wanted for the target. -/
def wants (p : Passage) (target : String) (lease : OperationId) : Prop :=
  p.move = .acquire target ∧ ∃ wait, p.told? = some (lease, wait)

/-- The lease is given to the one who wants it. -/
def grants (p : Passage) (lease : OperationId) : Prop :=
  p.told? = some (lease, .over (.acquired lease))

/-- The lease is not given back. -/
def keeps (lease : OperationId) (p : Passage) : Bool :=
  match p.move with
  | .release other => other != lease
  | _ => true

theorem keeps_iff {p : Passage} {lease : OperationId} :
    p.keeps lease = true ↔ p.move ≠ .release lease := by
  unfold keeps
  split
  · next other same => rw [same, bne_iff_ne, ne_eq, ne_eq, Move.release.injEq]
  · next others => exact ⟨fun _ => others lease, fun _ => rfl⟩

end Passage

/-- The lease has been given to one who wanted it for the target, and has not been given back
since. -/
def Leased (past : List Passage) (target : String) (lease : OperationId) : Prop :=
  (∃ p ∈ past, p.wants target lease) ∧
    ∃ p ∈ past.takeWhile (Passage.keeps lease), p.grants lease

variable {settings : Settings} {past : List Passage} {deed : Deed} {target : String}

/-- A slot stays the one of its target, and when it has been forgotten it stays so. -/
theorem Does.keepsSlots (does : Does m deed after) (sound : Sound m) (inside : i < m.slots.length) :
    i < after.slots.length ∧ (after.slot i).target = (m.slot i).target ∧
      ((after.slot i).known = true → (m.slot i).known = true) := by
  have placed := sound.crew.placed
  cases does with
  | _ => grind

theorem Deeds.keepsSlots {deeds : List Deed} (done : Deeds m deeds after) (sound : Sound m)
    (inside : i < m.slots.length) : i < after.slots.length ∧
      (after.slot i).target = (m.slot i).target ∧
      ((after.slot i).known = true → (m.slot i).known = true) := by
  induction done with
  | none m => exact ⟨inside, rfl, id⟩
  | next does _ induction =>
    obtain ⟨insideToo, home, known⟩ := does.keepsSlots sound inside
    obtain ⟨insideLast, homeToo, knownToo⟩ := induction (does.sound sound) insideToo
    exact ⟨insideLast, homeToo.trans home, known ∘ knownToo⟩

theorem move_keepsSlots (now : Nat) {move : Move} (sound : Sound m) (allowed : m.Allows move)
    (inside : i < m.slots.length) : i < (m.move now move).1.slots.length ∧
      ((m.move now move).1.slot i).target = (m.slot i).target ∧
      (((m.move now move).1.slot i).known = true → (m.slot i).known = true) := by
  obtain ⟨_, effect, _⟩ := move_effect now sound allowed
  obtain ⟨_, done⟩ := effect.acts.deeds
  exact done.keepsSlots sound inside

namespace Runs

/-- Who may lead a script has asked for the target of the slot. -/
theorem wanted (run : Runs settings now m past) {lease : OperationId}
    (here : m.operation? lease = some (.acquire i)) :
    ∃ p ∈ past, p.wants (m.slot i).target lease := by
  induction run with
  | start => cases here
  | wait _ _ induction => exact induction here
  | @move now m past move run allowed patient induction =>
    have affects := move_affects now run.sound allowed patient
    rcases affects.leases run.sound here with before | ⟨target, wait, same, told, home⟩
    · obtain ⟨p, member, wants⟩ := induction before
      have inside : i < m.slots.length := run.sound.crew.placed lease _ before
      obtain ⟨_, home, _⟩ := move_keepsSlots now run.sound allowed inside
      exact ⟨p, List.mem_cons_of_mem _ member, home.symm ▸ wants⟩
    · exact ⟨_, List.mem_cons_self, by rw [home]; exact ⟨same, wait, told⟩⟩

/-- While a script runs on a slot, the first in its line has been given the lease. -/
theorem granted (run : Runs settings now m past) (running : (m.slot i).running = true) :
    ∃ lease, m.First i lease ∧
      ∃ p ∈ past.takeWhile (Passage.keeps lease), p.grants lease := by
  induction run with
  | start =>
    have idle : (ofSettings settings).slot i = default := slot_outside (Nat.zero_le i)
    rw [idle] at running
    cases running
  | wait _ _ induction => exact induction running
  | @move now m past move run allowed patient induction =>
    have affects := move_affects now run.sound allowed patient
    rcases affects.running run.sound running with before | ⟨lease, first, told⟩
    · obtain ⟨lease, first, p, member, grants⟩ := induction before
      have keeps : move ≠ .release lease := by
        rintro rfl
        rw [Affects.returned run.sound first] at running
        cases running
      refine ⟨lease, affects.first run.sound first keeps, p, ?_, grants⟩
      rw [List.takeWhile_cons_of_pos (Passage.keeps_iff.mpr keeps)]
      exact List.mem_cons_of_mem _ member
    · have keeps : move ≠ .release lease := by
        rintro rfl
        cases told
      refine ⟨lease, first, ⟨now, m, move⟩, ?_, told⟩
      rw [List.takeWhile_cons_of_pos (Passage.keeps_iff.mpr keeps)]
      exact List.mem_cons_self

/-- While a script runs on a slot, somebody holds the lease of its target. -/
theorem leased (run : Runs settings now m past) (running : (m.slot i).running = true) :
    ∃ lease, m.First i lease ∧ Leased past (m.slot i).target lease := by
  obtain ⟨lease, first, granted⟩ := run.granted running
  exact ⟨lease, first, run.wanted first.1, granted⟩

/-- A target loses its session only while somebody holds the lease of the target. -/
theorem lost_leased (run : Runs settings now m past) {move : Move} (allowed : m.Allows move)
    (patient : move.isPatient = true) (before : m.stateOf target ≠ .reattaching)
    (lost : (m.move now move).1.stateOf target = .reattaching) :
    ∃ lease, Leased past target lease := by
  have affects := move_affects now run.sound allowed patient
  have still := (Runs.move move run allowed patient).sound
  obtain ⟨i, known, home, state⟩ := known_of_stateOf still (by rw [lost]; exact nofun)
  rw [lost] at state
  have outside : ¬ i < m.slots.length → (m.slot i).state = .detached ∧
      (m.slot i).running = false := by
    intro outside
    rw [slot_outside (Nat.le_of_not_lt outside)]
    exact ⟨rfl, rfl⟩
  have inside : i < m.slots.length := by
    by_contra new
    obtain ⟨detached, idle⟩ := outside new
    rcases affects.lost state with earlier | running
    · rw [detached] at earlier
      cases earlier
    · rw [idle] at running
      cases running
  obtain ⟨_, sameHome, knownBefore⟩ := move_keepsSlots now run.sound allowed inside
  rw [home] at sameHome
  rcases affects.lost state with earlier | running
  · rw [← run.sound.homes.single.stateOf (knownBefore known), ← sameHome] at earlier
    exact absurd earlier before
  · obtain ⟨lease, _, leased⟩ := run.leased running
    exact ⟨lease, sameHome ▸ leased⟩

end Runs

end BrowserScript.Session

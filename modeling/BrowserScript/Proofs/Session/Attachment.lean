import BrowserScript.Proofs.Session.Published

/-!
# Attempts to attach

At most one attempt to attach to a target is in progress, it is begun only while the target is not
attached, and who wants a session of the target gets the handle that is published. The only
exception is a reattachment whose slot was forgotten before it could line up. Main definitions:
`Session.Manager.Attempts`, `Session.Manager.Orphaned`. Main results: `Session.attempts_unique`,
`Session.Effect.unattached`, `Session.orphaned_iff`, `Session.move_returns`.
-/

set_option autoImplicit false

namespace BrowserScript.Session

open Manager

namespace Manager

/-- The operation attempts to attach to the target. -/
def Attempts (m : Manager) (id : OperationId) (target : String) : Prop :=
  ∃ operation, m.operation? id = some operation ∧ operation.isAttempting = true ∧
    (m.slot operation.slot).target = target

/-- The operation is a reattachment to a slot that has been forgotten. -/
def Orphaned (m : Manager) (id : OperationId) : Prop :=
  ∃ i stage, m.operation? id = some (.reattach i stage) ∧ (m.slot i).known = false

/-- The target of the call that a move is of, if the call wants a session. -/
def wanted? (m : Manager) : Move → Option String
  | .ensure target => some target
  | .resume id _ =>
    match m.operation? id with
    | some (.ensure i _) => some (m.slot i).target
    | _ => none
  | _ => none

end Manager

variable {m after : Manager} {deed : Deed} {deed? : Option Deed} {i j : SlotId}
  {id other : OperationId} {target : String} {now : Nat} {move : Move}

/-! ## One attempt at a time -/

/-- Whoever attempts to attach does so on the slot of the target, or is orphaned. -/
theorem attempt_known (sound : Sound m) {operation : Operation}
    (here : m.operation? id = some operation) (attempting : operation.isAttempting = true)
    (kept : ¬ m.Orphaned id) : (m.slot operation.slot).known = true := by
  cases operation with
  | ensure i stage | detach i stage | acquire i => exact sound.homes.kept id _ here rfl
  | reattach i stage =>
    by_contra unknown
    exact kept ⟨i, stage, here, Bool.not_eq_true _ ▸ unknown⟩
  | recover => cases attempting

theorem isBusy_of_isAttempting {operation : Operation}
    (attempting : operation.isAttempting = true) : operation.isBusy = true := by
  unfold Operation.isAttempting at attempting
  unfold Operation.isBusy
  split at attempting
  · next stage => rw [stage]
  · cases attempting

theorem attempts_unique (sound : Sound m) (one : m.Attempts id target)
    (another : m.Attempts other target) (kept : ¬ m.Orphaned id) (keptToo : ¬ m.Orphaned other) :
    id = other := by
  obtain ⟨operation, here, attempting, home⟩ := one
  obtain ⟨operation', here', attempting', home'⟩ := another
  have known := attempt_known sound here attempting kept
  have known' := attempt_known sound here' attempting' keptToo
  have same := sound.homes.single _ _ known known' (home.trans home'.symm)
  have first := sound.lines.first id operation here (isBusy_of_isAttempting attempting)
  have first' := sound.lines.first other operation' here' (isBusy_of_isAttempting attempting')
  rw [same, first'] at first
  exact (Option.some.inj first).symm

/-! ## Asking the browser to attach -/

/-- Whoever asks has an attempt afterwards, and the slot is not attached. -/
theorem Does.asked (does : Does m deed after) (sound : Sound m)
    (asked : deed.asked? = some (id, i)) :
    i < m.slots.length ∧ (m.slot i).state.handle? = none ∧ (deed.published m i).handle? = none ∧
      (∀ j, (after.slot j).known = (m.slot j).known ∧ (after.slot j).target = (m.slot j).target) ∧
      ∃ purpose : Purpose, after.operation? id =
        some (purpose.operation i (.attempting .opening)) := by
  cases does with
  | asks id' i' here turn unattached =>
    cases asked
    refine ⟨sound.crew.placed _ _ here, unattached, ?_, ?_, .ensure, ?_⟩
    · rw [Deed.published, if_pos rfl]
      rfl
    · grind
    · exact operation?_replaced _ here
  | asksAgain id' i' here =>
    cases asked
    have lost := sound.phases.reattaching _ _ _ here rfl
    refine ⟨sound.crew.placed _ _ here, ?_, ?_, fun _ => ⟨rfl, rfl⟩, .reattach, ?_⟩
    · rw [lost]
      rfl
    · rw [Deed.published, lost]
      rfl
    · exact operation?_replaced _ here
  | _ => cases asked

/-- A slot under an attempt is forgotten only under an orphan. -/
theorem purpose_known (sound : Sound m) {purpose : Purpose} {stage : Stage}
    (here : m.operation? id = some (purpose.operation i stage)) (kept : ¬ m.Orphaned id) :
    (m.slot i).known = true := by
  cases purpose with
  | ensure => exact sound.homes.kept id _ here rfl
  | reattach =>
    by_contra unknown
    exact kept ⟨i, stage, here, Bool.not_eq_true _ ▸ unknown⟩

/-- Only an orphan asks for a slot that is not the one of its target. -/
theorem Does.asked_home {before later : Manager} (does : Does before deed later)
    (late : Quietly later after) (sound : Sound before) (asks : deed.asked? = some (id, i)) :
    (after.slot i).target = (before.slot i).target ∧
      (¬ after.Orphaned id → (before.slot i).known = true) := by
  have soundLater := does.sound sound
  have still := late.keeps soundLater
  obtain ⟨_, _, _, fixed, purpose, here⟩ := does.asked sound asks
  have inside := soundLater.crew.placed _ _ here
  rw [slot_operation] at inside
  obtain ⟨_, sameKnown, sameTarget, _⟩ := still.slots i inside
  have attempting : (purpose.operation i (.attempting .opening)).isAttempting = true := by
    cases purpose <;> rfl
  refine ⟨sameTarget.trans (fixed i).2, fun kept => ?_⟩
  have stays := (still.attempts id _ attempting).mpr here
  rw [← (fixed i).1, ← sameKnown]
  exact purpose_known (late.sound soundLater) stays kept

/-- The browser is asked to attach to targets that are not attached, orphans apart. -/
theorem Effect.unattached {told? : Option (OperationId × Wait)}
    (effect : Effect m deed? after told?) (sound : Sound m)
    (told : told? = some (id, .attach target)) (kept : ¬ after.Orphaned id) :
    (m.stateOf target).handle? = none ∧ (after.stateOf target).handle? = none := by
  obtain ⟨acts, asked⟩ := effect
  subst told
  cases acts with
  | quietly => cases asked
  | once early does late =>
    obtain ⟨⟨_, i⟩, asks, entry⟩ := Option.map_eq_some_iff.mp asked.symm
    obtain ⟨rfl, home⟩ := Prod.mk.inj entry
    have soundBefore := early.sound sound
    obtain ⟨_, unattached, unattachedToo, _⟩ := does.asked soundBefore asks
    obtain ⟨sameTarget, knownOf⟩ := does.asked_home late soundBefore asks
    have known := knownOf kept
    rw [sameTarget] at home
    constructor
    · rw [← (early.keeps sound).stateOf, ← home, soundBefore.homes.single.stateOf known]
      exact unattached
    · rw [(late.keeps (does.sound soundBefore)).stateOf, ← home, does.stateOf soundBefore known]
      exact unattachedToo

/-! ## Orphans -/

theorem Keeps.orphaned (keeps : Keeps m after) (sound : Sound m) (orphaned : after.Orphaned id) :
    m.Orphaned id := by
  obtain ⟨i, stage, here, unknown⟩ := orphaned
  obtain ⟨earlier, was⟩ := keeps.reattachments id i stage here
  have inside := sound.crew.placed id _ was
  obtain ⟨_, known, _⟩ := keeps.slots i inside
  exact ⟨i, earlier, was, known ▸ unknown⟩

theorem Does.orphaned (does : Does m deed after) (sound : Sound m) (orphaned : after.Orphaned id)
    (ordinary : ∀ i, deed ≠ .closes i) : m.Orphaned id := by
  obtain ⟨i, stage, here, unknown⟩ := orphaned
  have fresh := sound.crew.fresh
  have came : ∃ earlier, m.operation? id = some (.reattach i earlier) := by
    cases does with
    | closes => exact absurd rfl (ordinary _)
    | loses j handle known =>
      have inside := inside_of_known known
      grind
    | proceeds id' j purpose => cases purpose <;> grind [Purpose.operation]
    | _ => grind
  obtain ⟨earlier, was⟩ := came
  have inside : i < m.slots.length := sound.crew.placed id _ was
  refine ⟨i, earlier, was, ?_⟩
  cases does with
  | closes => exact absurd rfl (ordinary _)
  | _ => grind

/-- Who lines up for a slot is not the one whose slot is out of use. -/
theorem fresh_of_unused (sound : Sound m) {stage : Stage}
    (here : m.operation? id = some (.reattach i stage)) (unused : (m.slot i).inUse = false) :
    stage = .fresh := by
  by_contra late
  have lined : id ∈ (m.slot i).attachLine := by
    rw [sound.lines.lined]
    refine ⟨_, here, rfl, ?_⟩
    cases stage with
    | fresh => exact absurd rfl late
    | inLine | backoff | attempting | detaching => rfl
  have empty : (m.slot i).attachLine.isEmpty = true := by
    unfold Slot.inUse at unused
    simp only [Bool.or_eq_false_iff, Bool.not_eq_false'] at unused
    exact unused.2
  rw [List.isEmpty_iff.mp empty] at lined
  cases lined

/-- Only the news that a target is gone makes orphans. -/
theorem news_of_orphaned (sound : Sound m) (allowed : m.Allows move)
    (orphaned : (m.move now move).1.Orphaned id) (before : ¬ m.Orphaned id) :
    ∃ target i, move = .notice (.targetClosed target) ∧ m.find? target = some i := by
  obtain ⟨deed?, effect, explained⟩ := move_effect now sound allowed
  by_contra none
  refine before ?_
  cases effect.acts with
  | quietly done => exact (done.keeps sound).orphaned sound orphaned
  | once early does late =>
    have soundBefore := early.sound sound
    have soundLater := does.sound soundBefore
    have later := (late.keeps soundLater).orphaned soundLater orphaned
    refine (early.keeps sound).orphaned sound (does.orphaned soundBefore later ?_)
    rintro i rfl
    rcases explained _ rfl with ordinary | ⟨_, _, _, closes⟩ | ⟨target, j, news, found, _⟩
    · cases ordinary
    · cases closes
    · exact none ⟨target, j, news, found⟩

/-- A target that is gone leaves behind a reattachment that has yet to line up for its slot. -/
theorem noticeClose_orphaned (sound : Sound m) (known : (m.slot i).known = true) :
    (m.noticeClose i).Orphaned id ∧ ¬ m.Orphaned id ↔
      m.operation? id = some (.reattach i .fresh) ∧ (m.slot i).inUse = false := by
  constructor
  · rintro ⟨⟨j, stage, here, unknown⟩, before⟩
    rw [operation?_noticeClose] at here
    have knownBefore : (m.slot j).known = true := by
      by_contra forgotten
      exact before ⟨j, stage, here, Bool.not_eq_true _ ▸ forgotten⟩
    rw [slot_noticeClose] at unknown
    split at unknown
    · next same =>
      obtain ⟨rfl, _⟩ := same
      have unused : (m.slot i).inUse = false := by simpa [known] using unknown
      obtain rfl := fresh_of_unused sound here unused
      exact ⟨here, unused⟩
    · rw [knownBefore] at unknown
      cases unknown
  · rintro ⟨here, unused⟩
    refine ⟨⟨i, .fresh, operation?_noticeClose.trans here, ?_⟩, ?_⟩
    · rw [slot_noticeClose, if_pos ⟨rfl, inside_of_known known⟩, unused, Bool.and_false]
    · rintro ⟨j, stage, there, unknown⟩
      rw [here] at there
      cases there
      rw [known] at unknown
      cases unknown

/-- Orphans are made exactly by the news that a target is gone while a reattachment to its slot has
yet to line up. -/
theorem orphaned_iff (sound : Sound m) (allowed : m.Allows move) :
    (m.move now move).1.Orphaned id ∧ ¬ m.Orphaned id ↔
      ∃ target i, move = .notice (.targetClosed target) ∧ m.find? target = some i ∧
        m.operation? id = some (.reattach i .fresh) ∧ (m.slot i).inUse = false := by
  have shape : ∀ target i, m.find? target = some i →
      (m.move now (.notice (.targetClosed target))).1 = m.noticeClose i := by
    intro target i found
    simp only [Manager.move, notice, found]
  constructor
  · rintro ⟨orphaned, before⟩
    obtain ⟨target, i, rfl, found⟩ := news_of_orphaned sound allowed orphaned before
    rw [shape target i found] at orphaned
    have known := (find?_some found).1
    exact ⟨target, i, rfl, found, (noticeClose_orphaned sound known).mp ⟨orphaned, before⟩⟩
  · rintro ⟨target, i, rfl, found, made⟩
    rw [shape target i found]
    exact (noticeClose_orphaned sound (find?_some found).1).mpr made

/-! ## What is returned -/

/-- Only who wants a session is given one: the one of the slot at that time. Without one, the
attempt has failed. -/
def Returns (m : Manager) (operation : Operation) (next : Manager × Wait) : Prop :=
  ∀ result, next.2 = .over (.attached result) → ∃ i stage, operation = .ensure i stage ∧
    (next.1.slot i).known = (m.slot i).known ∧ (next.1.slot i).target = (m.slot i).target ∧
    (next.1.slot i).state = concluded result ∧
    (result.toOption = none → (m.slot i).state = .attaching)

theorem Returns.waits {operation : Operation} {next : Manager × Wait}
    (waits : ∀ result, next.2 ≠ .over (.attached result)) : Returns m operation next :=
  fun result ended => absurd ended (waits result)

theorem takeTurn_returns {operation : Operation} (belongs : operation.slot = i) :
    Returns m operation (m.takeTurn now i id operation) := by
  cases operation with
  | ensure j stage =>
    obtain rfl : j = i := belongs
    simp only [takeTurn]
    split
    · next handle attached =>
      rintro result ⟨⟩
      have state := handle?_eq_some attached
      refine ⟨j, stage, rfl, ?_⟩
      rw [slot_finish, slot_leaveAttachLine]
      split <;> exact ⟨rfl, rfl, state, fun failed => by cases failed⟩
    · exact .waits fun _ ended => by cases ended
  | reattach j stage =>
    obtain rfl : j = i := belongs
    refine .waits fun result ended => ?_
    simp only [takeTurn] at ended
    split at ended <;> cases ended
  | detach j stage =>
    obtain rfl : j = i := belongs
    refine .waits fun result ended => ?_
    simp only [takeTurn] at ended
    split at ended <;> cases ended
  | acquire | recover => exact .waits fun _ ended => by cases ended

theorem tryTurn_returns {operation : Operation} (belongs : operation.slot = i) :
    Returns m operation (m.tryTurn now i id operation) := by
  unfold tryTurn
  split
  · exact takeTurn_returns belongs
  · exact .waits nofun

theorem lineUp_returns (m : Manager) (now : Nat) (i : SlotId) (id : OperationId)
    {operation : Operation} (belongs : operation.slot = i) :
    Returns ((m.joinAttachLine i id).setOperation id operation) operation
      (m.lineUp now i id operation) :=
  tryTurn_returns belongs

/-- An attempt ends with what it publishes. -/
theorem advance_returns (purpose : Purpose) {attempt : Attempt} {input : Input} (sound : Sound m)
    (here : m.operation? id = some (purpose.operation i (.attempting attempt))) :
    Returns m (purpose.operation i (.attempting attempt))
      (m.advance now purpose i id attempt input) := by
  have inside := sound.crew.placed id _ here
  rw [slot_operation] at inside
  have fails : ∀ error, Returns m (purpose.operation i (.attempting attempt))
      (m.conclude purpose i id (.error error)) := by
    intro error
    cases purpose with
    | ensure =>
      rintro _ ⟨⟩
      have attaching := sound.phases.attaching id i attempt here
      refine ⟨i, _, rfl, ?_⟩
      rw [slot_conclude, if_pos ⟨rfl, inside⟩]
      exact ⟨rfl, rfl, rfl, fun _ => attaching⟩
    | reattach => exact .waits nofun
  have succeeds : ∀ session, Returns m (purpose.operation i (.attempting attempt))
      (m.succeed purpose i id session) := by
    intro session
    cases purpose with
    | ensure =>
      rintro _ ⟨⟩
      refine ⟨i, _, rfl, ?_⟩
      rw [slot_succeed, if_pos ⟨rfl, inside⟩]
      exact ⟨rfl, rfl, rfl, nofun⟩
    | reattach => exact .waits nofun
  unfold advance
  split
  · exact .waits nofun
  · exact fails _
  · exact .waits nofun
  · split
    · exact succeeds _
    · exact fails _
    · exact .waits nofun
    · split
      · exact succeeds _
      · exact .waits nofun
  · exact .waits nofun
  · exact .waits nofun
  · exact fails _
  · exact .waits nofun

theorem resume_returns {operation : Operation} {input : Input} (sound : Sound m)
    (here : m.operation? id = some operation) : Returns m operation (m.resume now id input) := by
  unfold resume
  rw [here]
  cases operation with
  | ensure i stage =>
    cases stage with
    | inLine => exact tryTurn_returns rfl
    | attempting attempt => exact advance_returns .ensure sound here
    | fresh | backoff | detaching => exact .waits nofun
  | reattach i stage =>
    cases stage with
    | fresh =>
      refine .waits fun result ended => ?_
      have belongs : (Operation.reattach i .inLine).slot = i := rfl
      obtain ⟨_, _, other, _⟩ := lineUp_returns m now i id belongs result ended
      cases other
    | inLine => exact tryTurn_returns rfl
    | attempting attempt => exact advance_returns .reattach sound here
    | backoff | detaching => exact .waits nofun
  | detach i stage =>
    cases stage with
    | detaching => cases input <;> exact .waits nofun
    | inLine | fresh | backoff | attempting => exact tryTurn_returns rfl
  | acquire i =>
    refine .waits fun result ended => ?_
    simp only [takeLease] at ended
    split at ended <;> cases ended
  | recover i stale deadline =>
    refine .waits fun result ended => ?_
    simp only [awaitRecovery] at ended
    split at ended
    · cases ended
    · split at ended <;> cases ended

/-- A call that begins and lines up leaves the rest of its slot as it is. -/
theorem enter_returns (inside : i < m.slots.length) :
    Returns m (.ensure i .inLine)
      ((m.begin (.ensure i .inLine)).1.lineUp now i m.nextOperation (.ensure i .inLine)) := by
  intro result ended
  have belongs : (Operation.ensure i .inLine).slot = i := rfl
  obtain ⟨j, stage, same, known, home, state, failed⟩ :=
    lineUp_returns (m.begin (.ensure i .inLine)).1 now i m.nextOperation belongs result ended
  obtain ⟨rfl, rfl⟩ := Operation.ensure.inj same
  rw [slot_setOperation, slot_joinAttachLine, slot_begin, slots_begin, if_pos ⟨rfl, inside⟩]
    at known home failed
  exact ⟨i, .inLine, rfl, known, home, state, failed⟩

/-- A call that begins is served at once only with what is published already. -/
theorem ensure_returns (sound : Sound m) (target : String) (result : Except PageError SessionHandle)
    (ended : (m.ensure now target).2.2 = .over (.attached result)) :
    ∃ i, ((m.ensure now target).1.slot i).known = true ∧
      ((m.ensure now target).1.slot i).target = target ∧
      ((m.ensure now target).1.slot i).state = concluded result ∧
      (result.toOption = none → m.stateOf target = .attaching) := by
  have made := slotOf_quietly m target
  obtain ⟨known, home⟩ := slotOf_known m target
  have shown := (made.sound sound).homes.single.stateOf known
  rw [home, (made.keeps sound).stateOf] at shown
  refine ⟨(m.slotOf target).2, ?_⟩
  unfold ensure at ended ⊢
  simp only at ended ⊢
  split
  · next handle attached =>
    rw [attached] at ended
    cases ended
    exact ⟨known, home, handle?_eq_some attached, nofun⟩
  · next unattached =>
    rw [unattached] at ended
    obtain ⟨i, stage, same, knownToo, homeToo, state, failed⟩ :=
      enter_returns (inside_of_known known) result ended
    obtain ⟨rfl, rfl⟩ := Operation.ensure.inj same
    exact ⟨knownToo.trans known, homeToo.trans home, state, fun error => shown.trans (failed error)⟩

theorem detach_returns (m : Manager) (target : String) (result : Except PageError SessionHandle) :
    (m.detach now target).2.2 ≠ .over (.attached result) := by
  intro ended
  have belongs : (Operation.detach (m.slotOf target).2 .inLine).slot = (m.slotOf target).2 := rfl
  obtain ⟨_, _, other, _⟩ := lineUp_returns
    ((m.slotOf target).1.begin (.detach (m.slotOf target).2 .inLine)).1 now _
    (m.slotOf target).1.nextOperation belongs result ended
  cases other

theorem takeLease_returns (m : Manager) (i : SlotId) (id : OperationId)
    (result : Except PageError SessionHandle) :
    (m.takeLease i id).2 ≠ .over (.attached result) := by
  unfold takeLease
  split <;> exact nofun

theorem recover_returns (m : Manager) (stale : SessionHandle)
    (result : Except PageError SessionHandle) :
    (m.recover now stale).2.2 ≠ .over (.attached result) := by
  unfold recover
  simp only
  split <;> exact nofun

/-- Who is given a session is given the one that is published for the target at that time, and who
is told of an error leaves the target detached. -/
theorem move_returns (sound : Sound m) (allowed : m.Allows move)
    {result : Except PageError SessionHandle}
    (told : (m.move now move).2 = some (id, .over (.attached result))) :
    ∃ target, m.wanted? move = some target ∧ (m.move now move).1.stateOf target = concluded result ∧
      (result.toOption = none → m.stateOf target = .attaching) := by
  have still : Sound (m.move now move).1 := by
    obtain ⟨_, effect, _⟩ := move_effect now sound allowed
    exact effect.acts.sound sound
  cases move with
  | ensure target =>
    have ended := congrArg Prod.snd (Option.some.inj told)
    obtain ⟨i, known, home, state, failed⟩ := ensure_returns sound target result ended
    have shown : (m.ensure now target).1.stateOf ((m.ensure now target).1.slot i).target =
        ((m.ensure now target).1.slot i).state := still.homes.single.stateOf known
    rw [home, state] at shown
    exact ⟨target, rfl, shown, failed⟩
  | resume id' input =>
    obtain ⟨operation, here, _⟩ := allowed
    have ended := congrArg Prod.snd (Option.some.inj told)
    obtain ⟨i, stage, rfl, sameKnown, sameHome, state, failed⟩ :=
      resume_returns sound here result ended
    have known := sound.homes.kept id' _ here rfl
    have shown := sound.homes.single.stateOf known
    have shownToo := still.homes.single.stateOf (sameKnown.trans known)
    refine ⟨(m.slot i).target, ?_, sameHome ▸ shownToo.trans state,
      fun error => shown.trans (failed error)⟩
    simp only [wanted?, here]
  | detach target =>
    exact absurd (congrArg Prod.snd (Option.some.inj told)) (detach_returns m target _)
  | acquire target =>
    exact absurd (congrArg Prod.snd (Option.some.inj told)) (takeLease_returns _ _ _ _)
  | recover stale =>
    exact absurd (congrArg Prod.snd (Option.some.inj told)) (recover_returns m stale _)
  | release | abandon | notice => cases told

end BrowserScript.Session

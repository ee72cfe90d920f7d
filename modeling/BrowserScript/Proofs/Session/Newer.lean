import BrowserScript.Proofs.Session.Chronicle
import BrowserScript.Proofs.Session.Recovery

/-!
# Recoveries from a session that has been replaced

When the target has a newer session than the one that went away, a call to recover returns the newer
one and leaves everything as it is, unless a script runs on the target and the newer session has the
name of the old one: then the newer one is given up and replaced. That cannot be where the browser
does not use the name of a session again. Main definition: `Session.RecoversNewer`. Main results:
`Session.Follows.renamed`, `Session.Reaches.recovers_newer`.
-/

set_option autoImplicit false

namespace BrowserScript.Session

open Manager

/-- A script runs on the target. -/
def Manager.isRunning (m : Manager) (target : String) : Bool :=
  (m.find? target).any fun i => (m.slot i).running

variable {settings : Settings} {m after : Manager} {deed : Deed} {i : SlotId} {now : Nat}
  {move : Move} {stale handle : SessionHandle} {p q : Point}

/-! ## Recoveries -/

/-- The slot of a target that is attached. -/
theorem slotOf_attached {target : String} (attached : m.stateOf target = .attached handle) :
    ∃ i, m.find? target = some i ∧ m.slotOf target = (m, i) ∧
      (m.slot i).state = .attached handle := by
  unfold Manager.stateOf at attached
  split at attached
  · next i found =>
    refine ⟨i, found, ?_, attached⟩
    unfold slotOf
    rw [found]
  · cases attached

theorem recovery_newer (newer : stale.generation < handle.generation) :
    recovery stale (.attached handle) = some (some handle) := if_pos newer

/-- A call to recover that has nothing to begin is answered with the newer session, and leaves
everything as it is. -/
theorem recover_kept (sound : Sound m) (restarted : m.restarted stale = m)
    (state : (m.slot (m.slotOf stale.targetId).2).state = .attached handle)
    (newer : stale.generation < handle.generation) :
    (m.recover now stale).2.2 = .over (.recovered (some handle)) ∧
      (m.recover now stale).1.slots = m.slots ∧
      ∀ id, (m.recover now stale).1.operation? id = m.operation? id := by
  have fresh := sound.crew.fresh
  simp only [recover_eq, restarted, state, recovery_newer newer]
  refine ⟨trivial, rfl, fun id => ?_⟩
  show ((m.begin _).1.finish m.nextOperation).operation? id = _
  rw [operation?_finish, operation?_begin _ fresh]
  split
  · next same => rw [same, fresh]
  · rfl

/-- A call to recover that cannot be answered yet waits for a change. -/
theorem recover_waits (m : Manager) (now : Nat) (stale : SessionHandle)
    (unanswered : recovery stale ((m.restarted stale).slot (m.slotOf stale.targetId).2).state =
      none) :
    ∃ deadline, m.recover now stale =
      (((m.restarted stale).begin (.recover (m.slotOf stale.targetId).2 stale deadline)).1,
        (m.restarted stale).nextOperation, .change deadline) := by
  rw [recover_eq]
  dsimp only
  rw [unanswered]
  exact ⟨_, rfl⟩

/-- A call to recover that is taken for one about the newer session gives that up. -/
theorem recover_taken (now : Nat) (sound : Sound m) (found : m.find? stale.targetId = some i)
    (restarted : m.restarted stale = m.startReattach i stale.sessionId)
    (state : (m.slot i).state = .attached handle) (same : handle.sessionId = stale.sessionId) :
    (∃ deadline, (m.recover now stale).2.2 = .change deadline) ∧
      (m.recover now stale).1.stateOf stale.targetId = .reattaching ∧
      (m.recover now stale).1.operation? m.nextOperation = some (.reattach i .fresh) := by
  obtain ⟨known, home⟩ := find?_some found
  have slotOf : (m.slotOf stale.targetId).2 = i := by rw [Manager.slotOf, found]
  have on : (m.slot i).state.isOn stale.sessionId = true := by
    rw [state]
    exact beq_iff_eq.mpr same
  rw [startReattach, if_pos on] at restarted
  have still := (restarted_houses sound stale).1
  have slot : (m.restarted stale).slot i = { m.slot i with state := .reattaching } := by
    rw [restarted, slot_wake, slot_begin, slot_publish, if_pos ⟨rfl, inside_of_known known⟩]
  have begun : (m.restarted stale).operation? m.nextOperation = some (.reattach i .fresh) := by
    rw [restarted]
    exact operation?_begun (m := m.publish i .reattaching) _ sound.crew.fresh
  obtain ⟨deadline, waits⟩ := recover_waits m now stale (by rw [slotOf, slot]; rfl)
  rw [waits]
  refine ⟨⟨deadline, rfl⟩, ?_, ?_⟩
  · have shown := still.homes.single.stateOf (i := i) (by rw [slot]; exact known)
    rw [slot, home] at shown
    exact shown
  · rw [operation?_begin _ still.crew.fresh, if_neg, begun]
    exact Nat.ne_of_lt (still.crew.numbered _ _ begun)

/-! ## Names of sessions -/

/-- While the target stays attached, it has the same session. -/
theorem Does.stays_attached (does : Does m deed after) (sound : Sound m) {later : SessionHandle}
    (attached : (m.slot i).state = .attached handle)
    (attachedToo : (after.slot i).state = .attached later) : later = handle := by
  have attaching := sound.phases.attaching
  have reattaching := sound.phases.reattaching
  cases does with
  | makes target missing =>
    have idle : (m.slot m.slots.length).state = .detached := by
      rw [slot_outside (Nat.le_refl _)]
      rfl
    grind
  | succeeds _ _ purpose =>
    cases purpose <;> grind [Purpose.operation, Operation.isBusy, Operation.stage?]
  | closes => grind [closed]
  | _ => grind [concluded]

theorem move_stays_attached (now : Nat) (sound : Sound m) (allowed : m.Allows move)
    {later : SessionHandle} (attached : (m.slot i).state = .attached handle)
    (attachedToo : ((m.move now move).1.slot i).state = .attached later) : later = handle := by
  have inside : i < m.slots.length := by
    refine inside_of_held (?_ : m.held? i = some handle.sessionId)
    rw [held?, attached]
    rfl
  obtain ⟨_, ⟨acts, _⟩, _⟩ := move_effect now sound allowed
  cases acts with
  | quietly done =>
    rw [((done.keeps sound).slots i inside).2.2.2, attached] at attachedToo
    exact (SessionState.attached.inj attachedToo).symm
  | once early does late =>
    have soundBefore := early.sound sound
    obtain ⟨insideBefore, _, _, before⟩ := (early.keeps sound).slots i inside
    obtain ⟨insideLater, _⟩ := does.keepsSlots soundBefore insideBefore
    obtain ⟨_, _, _, last⟩ := (late.keeps (does.sound soundBefore)).slots i insideLater
    exact does.stays_attached soundBefore (before.trans attached) (last.symm.trans attachedToo)

/-- The session has been obtained, and no other handle has its name, nor can one get it. -/
structure Sole (p : Point) (handle : SessionHandle) : Prop where
  old : ∃ home : Bool, ∃ target, .obtained handle.sessionId target home ∈ p.log
  unawaited : ∀ id i, p.manager.waiting? id ≠ some (i, handle.sessionId)
  only : ∀ i other, (p.manager.slot i).state = .attached other →
    other.sessionId = handle.sessionId → other = handle

/-- What is published is the only one of its name. -/
theorem Chronicled.sole (chronicled : Chronicled p) {target : String}
    (attached : p.manager.stateOf target = .attached handle) : Sole p handle := by
  obtain ⟨i, _, _, state⟩ := known_of_stateOf chronicled.sound (by rw [attached]; exact nofun)
  rw [attached] at state
  have held := held?_attached state
  refine ⟨⟨_, _, chronicled.traced i _ (.inl held)⟩, fun id j => ?_, fun j other there same => ?_⟩
  · exact chronicled.apart.either i j id _ held
  · have heldToo := held?_attached there
    rw [same] at heldToo
    obtain rfl := chronicled.apart.held i j _ held heldToo
    exact SessionState.attached.inj (there.symm.trans state)

theorem Sole.step (sole : Sole p handle) (chronicled : Chronicled p) (step : p.Step q) :
    Sole q handle := by
  obtain ⟨⟨home, target, old⟩, unawaited, only⟩ := sole
  cases step with
  | wait => exact ⟨⟨home, target, old⟩, unawaited, only⟩
  | fails => exact ⟨⟨home, target, List.mem_cons_of_mem _ old⟩, unawaited, only⟩
  | move move fits =>
    have turnover := chronicled.turnover fits
    have fresh : ∀ target' home',
        p.manager.reports p.now move ≠ [.obtained handle.sessionId target' home'] :=
      fun _ _ reports => fits.new (reports ▸ List.mem_singleton_self _) _ _ old
    refine ⟨⟨home, target, List.mem_append_right _ old⟩, fun id i waits => ?_,
      fun i other attached same => ?_⟩
    · rcases turnover.waits waits with before | reports
      · exact unawaited id i before
      · exact fresh _ _ reports
    · have held := held?_attached attached
      rw [same] at held
      rcases turnover.has (.inl held) with (before | ⟨id, waits⟩) | reports
      · obtain ⟨earlier, state, named⟩ := Option.map_eq_some_iff.mp before
        have attachedBefore := handle?_eq_some state
        rw [move_stays_attached p.now chronicled.sound fits.allowed attachedBefore attached]
        exact only i earlier attachedBefore named
      · exact absurd waits (unawaited id i)
      · exact absurd reports (fresh _ _)

/-- Where the browser does not use the name of a session again, a newer session of a target has a
name of its own. -/
theorem Follows.renamed {target : String} (history : Follows (.start settings) p)
    (later : Follows p q) (attached : p.manager.stateOf target = .attached stale)
    (attachedToo : q.manager.stateOf target = .attached handle)
    (newer : stale.generation < handle.generation) : handle.sessionId ≠ stale.sessionId := by
  intro same
  have chronicled := history.chronicled
  have sole : Sole q stale := by
    clear attachedToo
    induction later with
    | refl => exact chronicled.sole attached
    | tail before step induction => exact induction.step (chronicled.follows before) step
  obtain ⟨i, _, _, state⟩ := known_of_stateOf (chronicled.follows later).sound
    (by rw [attachedToo]; exact nofun)
  rw [sole.only i handle (state.trans attachedToo) same] at newer
  exact Nat.lt_irrefl _ newer

/-! ## All of it -/

/-- What a call to recover does while the target has a session newer than the one that went away. -/
structure RecoversNewer (settings : Settings) (now : Nat) (m : Manager)
    (stale handle : SessionHandle) : Prop where
  /-- Unless the newer session has the name of the old one under a script, it is the answer, and
  nothing is done to slots or operations. -/
  kept : m.isRunning stale.targetId = false ∨ handle.sessionId ≠ stale.sessionId →
    (m.recover now stale).2.2 = .over (.recovered (some handle)) ∧
      (m.recover now stale).1.slots = m.slots ∧
      ∀ id, (m.recover now stale).1.operation? id = m.operation? id
  /-- Otherwise the newer session is given up, and a reattachment begins. -/
  taken : m.isRunning stale.targetId = true → handle.sessionId = stale.sessionId →
    (∃ deadline, (m.recover now stale).2.2 = .change deadline) ∧
      (m.recover now stale).1.stateOf stale.targetId = .reattaching ∧
      ∃ id i, m.operation? id = none ∧
        (m.recover now stale).1.operation? id = some (.reattach i .fresh)
  /-- The names differ where the browser does not use the name of a session again. -/
  named : ∀ p q, Follows (.start settings) p → Follows p q → q.manager = m →
    p.manager.stateOf stale.targetId = .attached stale → handle.sessionId ≠ stale.sessionId

/-- A call to recover disturbs a newer session only if that has the name of the old one. -/
theorem Reaches.recovers_newer (reaches : Reaches settings now m)
    (attached : m.stateOf stale.targetId = .attached handle)
    (newer : stale.generation < handle.generation) :
    RecoversNewer settings now m stale handle := by
  obtain ⟨i, found, slotOf, state⟩ := slotOf_attached attached
  have running : m.isRunning stale.targetId = (m.slot i).running := by
    rw [isRunning, found, Option.any_some]
  have restarted : m.restarted stale =
      if (m.slot i).running then m.startReattach i stale.sessionId else m := by
    rw [Manager.restarted, slotOf]
  refine ⟨fun undisturbed => ?_, fun runs same => ?_, fun p q history later same before => ?_⟩
  · refine recover_kept reaches.sound ?_ (by rw [slotOf]; exact state) newer
    rw [restarted]
    split
    · next runs =>
      have other : handle.sessionId ≠ stale.sessionId := by
        rcases undisturbed with idle | other
        · rw [running, runs] at idle
          cases idle
        · exact other
      have off : (m.slot i).state.isOn stale.sessionId = false := by
        rw [state]
        exact beq_false_of_ne other
      rw [startReattach, if_neg (by rw [off]; exact nofun)]
    · rfl
  · rw [running] at runs
    rw [if_pos runs] at restarted
    obtain ⟨waits, lost, begun⟩ := recover_taken now reaches.sound found restarted state same
    exact ⟨waits, lost, _, i, reaches.sound.crew.fresh, begun⟩
  · subst same
    exact history.renamed later before attached newer

/-- The session was replaced by one with another name; a call to recover from it returns the newer
one. -/
theorem newer_session_kept :
    ∃ m, Reaches {} 500 m ∧ m.isRunning "T1" = true ∧
      m.stateOf "T1" = .attached ⟨"T1", "S2", true, 2⟩ ∧
      RecoversNewer {} 500 m ⟨"T1", "S1", true, 1⟩ ⟨"T1", "S2", true, 2⟩ := by
  have lost := (@Reaches.start {}).move (.ensure "T1") trivial
    |>.move (.resume 0 (.attached (.ok "S1"))) ⟨_, rfl, rfl⟩
    |>.move (.resume 0 (.probed (.ok (.str "complete")))) ⟨_, rfl, rfl⟩
    |>.move (.acquire "T1") trivial
    |>.move (.notice (.detached "T1" "S1" "closed")) trivial
  have replaced := lost.move (.resume 2 .turn) ⟨_, rfl, rfl⟩
    |>.wait 500
    |>.move (.resume 2 .turn) ⟨_, rfl, rfl⟩
    |>.move (.resume 2 (.attached (.ok "S2"))) ⟨_, rfl, rfl⟩
    |>.move (.resume 2 (.probed (.ok (.str "complete")))) ⟨_, rfl, rfl⟩
  exact ⟨_, replaced, rfl, rfl, replaced.recovers_newer rfl (by decide)⟩

/-- The browser gives the new session the name of the old one. A call to recover from the old one
gives the new one up. -/
theorem newer_session_given_up :
    ¬ ∀ (settings : Settings) (now : Nat) (m : Manager) (stale handle : SessionHandle),
      Reaches settings now m → m.isRunning stale.targetId = true →
      m.stateOf stale.targetId = .attached handle → stale.generation < handle.generation →
        (m.recover now stale).2.2 = .over (.recovered (some handle)) ∧
          (m.recover now stale).1.stateOf stale.targetId = .attached handle := by
  intro claim
  have lost := (@Reaches.start {}).move (.ensure "T1") trivial
    |>.move (.resume 0 (.attached (.ok "T1"))) ⟨_, rfl, rfl⟩
    |>.move (.resume 0 (.probed (.ok (.str "complete")))) ⟨_, rfl, rfl⟩
    |>.move (.acquire "T1") trivial
    |>.move (.notice (.detached "T1" "T1" "closed")) trivial
  have replaced := lost.move (.resume 2 .turn) ⟨_, rfl, rfl⟩
    |>.wait 500
    |>.move (.resume 2 .turn) ⟨_, rfl, rfl⟩
    |>.move (.resume 2 (.attached (.ok "T1"))) ⟨_, rfl, rfl⟩
    |>.move (.resume 2 (.probed (.ok (.str "complete")))) ⟨_, rfl, rfl⟩
  have kept := claim _ _ _ ⟨"T1", "T1", true, 1⟩ ⟨"T1", "T1", true, 2⟩ replaced rfl rfl (by decide)
  cases kept.2

end BrowserScript.Session

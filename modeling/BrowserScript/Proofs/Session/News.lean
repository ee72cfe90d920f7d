import BrowserScript.Proofs.Session.Custody

/-!
# What the manager makes of news

The news that a session or a target is gone takes away exactly the session that it is about. Main
definition: `SessionEvent.concerns`. Main results: `Session.notice_attached`,
`Session.noticeAll_attached`.
-/

set_option autoImplicit false

namespace BrowserScript

/-- The event says that the session of the target is gone. -/
def SessionEvent.concerns (target session : String) : SessionEvent → Bool
  | detached other lost _ => other == target && lost == session
  | targetClosed other => other == target
  | disconnected => false

namespace Session

open Manager

variable {m : Manager} {i : SlotId} {session target : String} {handle : SessionHandle}

/-! ## Published sessions -/

/-- What is published for a target is the session of its slot. -/
theorem attached_iff (sound : Sound m) : m.stateOf target = .attached handle ↔
    ∃ i, (m.slot i).known = true ∧ (m.slot i).target = target ∧
      (m.slot i).state = .attached handle := by
  constructor
  · intro attached
    obtain ⟨i, known, home, state⟩ := known_of_stateOf sound (by rw [attached]; exact nofun)
    exact ⟨i, known, home, state.trans attached⟩
  · rintro ⟨i, known, rfl, state⟩
    rw [sound.homes.single.stateOf known, state]

theorem isOn_eq_true {state : SessionState} :
    state.isOn session = true ↔
      ∃ handle, state = .attached handle ∧ handle.sessionId = session := by
  unfold SessionState.isOn
  cases state with
  | attached handle => simp
  | detached | attaching | reattaching => exact ⟨nofun, nofun⟩

theorem isOn_iff (sound : Sound m) : (m.stateOf target).isOn session = true ↔
    ∃ i, (m.slot i).known = true ∧ (m.slot i).target = target ∧ m.held? i = some session := by
  simp only [held?_iff, isOn_eq_true, attached_iff sound]
  grind

/-! ## One piece of news -/

theorem notice_sound (sound : Sound m) (event : SessionEvent) : Sound (m.notice event) := by
  obtain ⟨_, acts, _⟩ := @notice_acts m event
  exact acts.sound sound

/-- The news that a session is gone leaves the slots to their targets. -/
theorem noticeDetach_fixed (m : Manager) (i j : SlotId) (session : String) :
    ((m.noticeDetach i session).slot j).known = (m.slot j).known ∧
      ((m.noticeDetach i session).slot j).target = (m.slot j).target := by
  unfold noticeDetach startReattach
  split
  · split <;> grind
  · exact ⟨rfl, rfl⟩

/-- A slot keeps its session unless it is the one that is gone. -/
theorem noticeDetach_attached (m : Manager) (i j : SlotId) (session : String)
    (handle : SessionHandle) :
    ((m.noticeDetach i session).slot j).state = .attached handle ↔
      (m.slot j).state = .attached handle ∧ ¬ (i = j ∧ handle.sessionId = session) := by
  unfold noticeDetach startReattach
  by_cases on : (m.slot i).state.isOn session = true
  · have inside : i < m.slots.length := inside_of_held (held?_iff.mpr on)
    simp only [on, if_true]
    unfold SessionState.isOn at on
    split <;> grind
  · rw [if_neg on]
    unfold SessionState.isOn at on
    grind

theorem noticeClose_attached (m : Manager) (i j : SlotId) (handle : SessionHandle) :
    ((m.noticeClose i).slot j).state = .attached handle ↔
      (m.slot j).state = .attached handle ∧ ¬ (i = j ∧ j < m.slots.length) := by
  rw [slot_noticeClose]
  split
  · next same =>
    refine ⟨fun attached => ?_, fun both => absurd same both.2⟩
    exact nomatch (handle?_closed (m.slot j).state).symm.trans
      (congrArg SessionState.handle? attached)
  · next different => exact ⟨fun attached => ⟨attached, different⟩, And.left⟩

/-- A target keeps its session unless the news is about it. -/
theorem notice_attached (sound : Sound m) (event : SessionEvent) :
    (m.notice event).stateOf target = .attached handle ↔
      m.stateOf target = .attached handle ∧ event.concerns target handle.sessionId = false := by
  have single := sound.homes.single
  rw [attached_iff (notice_sound sound event), attached_iff sound]
  cases event with
  | detached other lost reason =>
    simp only [notice, SessionEvent.concerns]
    split
    · next i found =>
      obtain ⟨known, rfl⟩ := find?_some found
      simp only [noticeDetach_fixed, noticeDetach_attached]
      grind [Single]
    · next missing =>
      have absent : ∀ j, (m.slot j).known = true → (m.slot j).target ≠ other :=
        fun j => find?_none missing
      grind
  | targetClosed other =>
    simp only [notice, SessionEvent.concerns]
    split
    · next i found =>
      obtain ⟨known, rfl⟩ := find?_some found
      have inside := inside_of_known known
      simp only [noticeClose_attached]
      grind [Single]
    · next missing =>
      have absent : ∀ j, (m.slot j).known = true → (m.slot j).target ≠ other :=
        fun j => find?_none missing
      grind
  | disconnected =>
    simp only [notice, SessionEvent.concerns, and_true]

/-- Right after the news that its session is gone, a target is not on it. -/
theorem notice_isOn (sound : Sound m) (target session reason : String) :
    ((m.notice (.detached target session reason)).stateOf target).isOn session = false := by
  refine Bool.eq_false_iff.mpr fun on => ?_
  obtain ⟨handle, attached, same⟩ := isOn_eq_true.mp on
  have unconcerned := ((notice_attached sound _).mp attached).2
  simp [SessionEvent.concerns, same] at unconcerned

/-! ## News after news -/

namespace Manager

/-- Takes in news, one after the other. -/
def noticeAll (m : Manager) (events : List SessionEvent) : Manager :=
  events.foldl (fun m event => { m.notice event with woken := [] }) m

end Manager

theorem Sound.rested (sound : Sound m) : Sound { m with woken := [] } where
  crew := ⟨sound.crew.numbered, sound.crew.placed, sound.crew.staged⟩
  lines := ⟨sound.lines.lined, sound.lines.once, sound.lines.first⟩
  scripts := ⟨sound.scripts.queued, sound.scripts.once⟩
  homes := ⟨sound.homes.single, sound.homes.kept, sound.homes.named⟩
  phases := ⟨sound.phases.attaching, sound.phases.reattaching⟩

/-- A target keeps its session unless one of the news is about it. -/
theorem noticeAll_attached (sound : Sound m) (events : List SessionEvent) :
    (m.noticeAll events).stateOf target = .attached handle ↔
      m.stateOf target = .attached handle ∧
        ∀ event ∈ events, event.concerns target handle.sessionId = false := by
  induction events generalizing m with
  | nil => simp [noticeAll]
  | cons event rest induction =>
    have still := (notice_sound sound event).rested
    have first : ({ m.notice event with woken := [] } : Manager).stateOf target =
        (m.notice event).stateOf target := rfl
    simp only [noticeAll, List.foldl_cons] at induction ⊢
    rw [induction still, first, notice_attached sound, List.forall_mem_cons, and_assoc]

end Session

end BrowserScript

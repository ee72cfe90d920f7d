import BrowserScript.Proofs.Session.Chronicle
import BrowserScript.Proofs.Session.News

/-!
# The news that a session is gone

A target never gets a session back that is known to be gone, unless the news came while somebody was
still attaching: then the news is not heeded, and the session is published as soon as its page is
ready. Main definitions: `Session.Absent`, `Session.Heeded`. Main result: `Session.Follows.heeded`.
-/

set_option autoImplicit false

namespace BrowserScript.Session

open Manager

variable {m : Manager} {i : SlotId} {id : OperationId} {now : Nat}
  {session target reason : String} {home : Bool} {p q : Point} {settings : Settings}

/-- The session has been obtained, and neither is it that of the target nor can it become so. -/
structure Absent (p : Point) (target session : String) : Prop where
  old : ∃ home : Bool, ∃ other, .obtained session other home ∈ p.log
  unawaited : ∀ id i, p.manager.waiting? id ≠ some (i, session)
  unheld : ∀ i, (p.manager.slot i).known = true → (p.manager.slot i).target = target →
    p.manager.held? i ≠ some session

theorem Absent.step (absent : Absent p target session) (chronicled : Chronicled p)
    (step : p.Step q) : Absent q target session := by
  obtain ⟨⟨home, other, old⟩, unawaited, unheld⟩ := absent
  cases step with
  | wait => exact ⟨⟨home, other, old⟩, unawaited, unheld⟩
  | fails => exact ⟨⟨home, other, List.mem_cons_of_mem _ old⟩, unawaited, unheld⟩
  | move move fits =>
    have turnover := chronicled.turnover fits
    have fresh : ∀ target' home',
        p.manager.reports p.now move ≠ [.obtained session target' home'] :=
      fun _ _ reports => fits.new (reports ▸ List.mem_singleton_self _) _ _ old
    refine ⟨⟨home, other, List.mem_append_right _ old⟩, fun id i waits => ?_, ?_⟩
    · rcases turnover.waits waits with before | reports
      · exact unawaited id i before
      · exact fresh _ _ reports
    · intro i known named held
      rcases turnover.has (.inl held) with had | reports
      · obtain ⟨sameKnown, sameTarget⟩ := move_fixed chronicled.sound fits.allowed (.inl held)
          (had.inside chronicled.sound)
        rcases had with heldBefore | ⟨id, waits⟩
        · exact unheld i (sameKnown.symm.trans known) (sameTarget.symm.trans named) heldBefore
        · exact unawaited id i waits
      · exact fresh _ _ reports

theorem Absent.follows (absent : Absent p target session) (chronicled : Chronicled p)
    (later : Follows p q) : Absent q target session := by
  induction later with
  | refl => exact absent
  | tail before step induction => exact induction.step (chronicled.follows before) step

/-! ## What the news does -/

/-- While the page of the session is waited for, the news is not heeded. -/
theorem notice_ignored (apart : m.Apart) (waits : m.waiting? id = some (i, session))
    (target reason : String) : m.notice (.detached target session reason) = m := by
  simp only [notice]
  split
  · next j found =>
    have off : ¬ (m.slot j).state.isOn session = true :=
      fun on => apart.either j i id session (held?_iff.mpr on) waits
    rw [noticeDetach, if_neg off]
  · rfl

/-- A page that turns out to be ready gets its session published. -/
theorem ready_publishes (sound : Sound m) {purpose : Purpose} {deadline : Nat}
    {answer : Except PageError Json}
    (here : m.operation? id = some (purpose.operation i (.attempting (.probing session deadline))))
    (known : (m.slot i).known = true) (ready : readiness answer = .ready) :
    ((m.move now (.resume id (.probed answer))).1.stateOf (m.slot i).target).isOn session =
      true := by
  have shape : (m.move now (.resume id (.probed answer))).1 =
      (m.succeed purpose i id session).1 := by
    cases purpose with
    | ensure =>
      simp only [Purpose.operation] at here
      simp only [Manager.move, resume, here, advance, ready]
    | reattach =>
      simp only [Purpose.operation] at here
      simp only [Manager.move, resume, here, advance, ready]
  have still := (Does.succeeds id i purpose _ session here).sound sound
  have slot : (m.succeed purpose i id session).1.slot i =
      { m.slot i with
        state := .attached (m.granted i session)
        attachLine := (m.slot i).attachLine.leave id } := by
    rw [slot_succeed, if_pos ⟨rfl, inside_of_known known⟩]
  rw [shape]
  refine (isOn_iff still).mpr ⟨i, ?_, ?_, ?_⟩
  · rw [slot]
    exact known
  · rw [slot]
  · rw [held?, slot]
    rfl

/-! ## All of it -/

/-- What becomes of the news that a session is gone. -/
structure Heeded (p : Point) (target session reason : String) : Prop where
  /-- Right after the news the session is not that of the target. -/
  atOnce : ((p.after (.notice (.detached target session reason))).manager.stateOf target).isOn
    session = false
  /-- It comes to be that of the target only if the news came before it was obtained, or while its
  page was waited for. -/
  forGood : ∀ q, Follows (p.after (.notice (.detached target session reason))) q →
    (q.manager.stateOf target).isOn session = true →
      (∀ other home, .obtained session other home ∉ p.log) ∨
        ∃ id i, p.manager.waiting? id = some (i, session)
  /-- While its page is waited for, the news is not heeded. -/
  ignored : ∀ id i, p.manager.waiting? id = some (i, session) →
    (p.after (.notice (.detached target session reason))).manager = p.manager
  /-- If the page turns out to be ready, the session is published. -/
  published : ∀ id i purpose deadline answer later,
    p.manager.operation? id =
      some (Purpose.operation purpose i (.attempting (.probing session deadline))) →
    (p.manager.slot i).known = true → (p.manager.slot i).target = target →
    readiness answer = .ready →
      (((p.after (.notice (.detached target session reason))).manager.move later
        (.resume id (.probed answer))).1.stateOf target).isOn session = true

/-- The news that a session is gone is heeded exactly when the session has been published. -/
theorem Follows.heeded (history : Follows (.start settings) p) (target session reason : String) :
    Heeded p target session reason := by
  have chronicled := history.chronicled
  have fits : p.Fits (.notice (.detached target session reason)) := ⟨trivial, nofun, nofun⟩
  have atOnce := notice_isOn chronicled.sound target session reason
  have ignored : ∀ id i, p.manager.waiting? id = some (i, session) →
      (p.after (.notice (.detached target session reason))).manager = p.manager :=
    fun id i waits => notice_ignored chronicled.apart waits target reason
  refine ⟨atOnce, fun q later on => ?_, ignored, ?_⟩
  · by_contra neither
    push Not at neither
    obtain ⟨⟨other, home, old⟩, unawaited⟩ := neither
    have after := chronicled.moved fits
    have absent : Absent (p.after (.notice (.detached target session reason))) target session := by
      refine ⟨⟨home, other, List.mem_append_right _ old⟩, fun id i waits => ?_, ?_⟩
      · rcases (chronicled.turnover fits).waits waits with before | reports
        · exact unawaited id i before
        · cases reports
      · intro i known named held
        have on := (isOn_iff after.sound).mpr ⟨i, known, named, held⟩
        exact Bool.noConfusion (atOnce.symm.trans on)
    obtain ⟨i, known, named, held⟩ := (isOn_iff (after.follows later).sound).mp on
    exact (absent.follows after later).unheld i known named held
  · intro id i purpose deadline answer later here known named ready
    have waits : p.manager.waiting? id = some (i, session) := by
      rw [waiting?, here]
      cases purpose <;> rfl
    rw [ignored id i waits, ← named]
    exact ready_publishes chronicled.sound here known ready

/-- The news about a published session is heeded. -/
theorem published_session_heeded : ∃ p, Follows (.start {}) p ∧
    (p.manager.stateOf "T1").isOn "S1" = true ∧ Heeded p "T1" "S1" "closed" := by
  have run := Point.attached_follows
  exact ⟨_, run, rfl, run.heeded "T1" "S1" "closed"⟩

/-- A session that is gone while its page is waited for is published nevertheless. -/
theorem gone_session_published :
    ¬ ∀ (settings : Settings) (p q : Point), Follows (.start settings) p →
      ∀ session target reason home, .obtained session target home ∈ p.log →
        Follows (p.after (.notice (.detached target session reason))) q →
          (q.manager.stateOf target).isOn session = false := by
  intro claim
  have on := claim _ _ _ Point.opened_follows "S1" "T1" "closed" true
    (List.mem_of_getElem? (i := 0) rfl)
    (Follows.move .refl (.resume 0 (.probed (.ok (.str "complete")))) ⟨⟨_, rfl, rfl⟩, nofun, nofun⟩)
  cases on

end BrowserScript.Session

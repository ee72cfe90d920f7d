import BrowserScript.Proofs.Session.Schedule

/-!
# Moves are deeds

Each operation, when it goes on, does at most one deed that anybody sees, and so does each move.
Main definitions: `Session.Goes`, `Session.Explains`. Main results: `Session.resume_goes`,
`Session.move_effect`, `Session.Reaches.sound`.
-/

set_option autoImplicit false

namespace BrowserScript.Session

open Manager

variable {m middle after : Manager} {deed? : Option Deed} {i : SlotId} {id : OperationId}
  {now : Nat}

/-- Nobody leaves in the middle of an attempt, and no target is gone. -/
def Deed.isOrdinary : Deed → Bool
  | leaves _ operation => !operation.isAttempting
  | closes _ => false
  | _ => true

def Ordinary (deed? : Option Deed) : Prop := ∀ deed, deed? = some deed → deed.isOrdinary = true

theorem Ordinary.none : Ordinary none := nofun

theorem Ordinary.some {deed : Deed} (ordinary : deed.isOrdinary = true) :
    Ordinary (some deed) := by
  intro _ same
  cases same
  exact ordinary

/-- What going on with an operation does. -/
def Goes (m : Manager) (id : OperationId) (next : Manager × Wait) : Prop :=
  ∃ deed?, Effect m deed? next.1 (some (id, next.2)) ∧ Ordinary deed?

theorem Goes.one {next : Manager × Wait} {deed : Deed} (does : Does m deed next.1)
    (asked : next.2.target?.map (id, ·) =
      deed.asked?.map fun asked => (asked.1, (next.1.slot asked.2).target))
    (ordinary : deed.isOrdinary = true) : Goes m id next :=
  ⟨some deed, ⟨.one does, asked⟩, .some ordinary⟩

theorem Goes.quietly {next : Manager × Wait} (done : Quietly m next.1)
    (silent : next.2.target? = none) : Goes m id next :=
  ⟨none, ⟨.quietly done, by simp [asking?, silent]⟩, .none⟩

theorem Goes.nothing {wait : Wait} (silent : wait.target? = none) : Goes m id (m, wait) :=
  .quietly (.nothing m) silent

/-- A deed before which nobody sees leaves the rest as it is. -/
theorem Goes.afterQuiet {next : Manager × Wait} (early : Quietly m middle)
    (goes : Goes middle id next) : Goes m id next := by
  obtain ⟨deed?, ⟨acts, asked⟩, ordinary⟩ := goes
  exact ⟨deed?, ⟨acts.afterQuiet early, asked⟩, ordinary⟩

theorem handle?_eq_some {state : SessionState} {handle : SessionHandle}
    (some : state.handle? = some handle) : state = .attached handle := by
  cases state with
  | attached other => rw [Option.some.inj some]
  | detached | attaching | reattaching => cases some

theorem takeTurn_goes {operation : Operation} (here : m.operation? id = some operation)
    (belongs : operation.slot = i) (waits : operation.stage? = some .inLine)
    (turn : (m.slot i).attachLine.hasTurn id = true) :
    Goes m id (m.takeTurn now i id operation) := by
  cases operation with
  | ensure j stage =>
    obtain rfl : j = i := belongs
    obtain rfl : stage = .inLine := Option.some.inj waits
    simp only [takeTurn]
    split
    · exact .one (.leaves id _ _ here rfl) rfl rfl
    · next unattached => exact .one (.asks id j here turn unattached) rfl rfl
  | reattach j stage =>
    obtain rfl : j = i := belongs
    obtain rfl : stage = .inLine := Option.some.inj waits
    simp only [takeTurn]
    split
    · next lost => exact .one (.backsOff id j here turn lost) rfl rfl
    · exact .one (.leaves id _ _ here rfl) rfl rfl
  | detach j stage =>
    obtain rfl : j = i := belongs
    obtain rfl : stage = .inLine := Option.some.inj waits
    simp only [takeTurn]
    split
    · next handle attached =>
      exact .one (.clears id j handle here turn (handle?_eq_some attached)) rfl rfl
    · next unattached => exact .one (.idles id j here turn unattached) rfl rfl
  | acquire | recover => cases waits

theorem tryTurn_goes {operation : Operation} (here : m.operation? id = some operation)
    (belongs : operation.slot = i) (waits : operation.stage? = some .inLine) :
    Goes m id (m.tryTurn now i id operation) := by
  unfold tryTurn
  split
  · next turn => exact takeTurn_goes here belongs waits turn
  · exact .nothing rfl

theorem openSession_goes (here : m.operation? id = some (.reattach i .backoff)) :
    Goes m id (m.openSession .reattach i id) :=
  .one (.asksAgain id i here) rfl rfl

/-- An attempt goes on, or it ends in one way or the other. -/
theorem advance_goes (purpose : Purpose) {attempt : Attempt} {input : Input}
    (here : m.operation? id = some (purpose.operation i (.attempting attempt)))
    (fits : attempt.expects input = true) :
    Goes m id (m.advance now purpose i id attempt input) := by
  cases attempt with
  | opening =>
    cases input with
    | attached answer =>
      cases answer with
      | ok session => exact .one (.proceeds id i purpose _ _ here) rfl rfl
      | error error => exact .one (.fails id i purpose _ error here) rfl rfl
    | turn | probed | closed => exact Bool.noConfusion fits
  | probing session deadline =>
    cases input with
    | probed answer =>
      simp only [advance]
      split
      · exact .one (.succeeds id i purpose _ session here) rfl rfl
      · next error _ => exact .one (.fails id i purpose _ error here) rfl rfl
      · exact .one (.proceeds id i purpose _ _ here) rfl rfl
      · split
        · exact .one (.succeeds id i purpose _ session here) rfl rfl
        · exact .one (.proceeds id i purpose _ _ here) rfl rfl
    | turn | attached | closed => exact Bool.noConfusion fits
  | pausing session deadline =>
    exact .one (.proceeds id i purpose _ _ here) rfl rfl
  | closing session error =>
    cases input with
    | closed answer => exact .one (.fails id i purpose _ error here) rfl rfl
    | turn | attached | probed => exact Bool.noConfusion fits

theorem takeLease_goes (here : m.operation? id = some (.acquire i)) :
    Goes m id (m.takeLease i id) := by
  unfold takeLease
  split
  · next turn => exact .quietly (.one (.takesLease id i here turn) rfl) rfl
  · exact .nothing rfl

theorem awaitRecovery_goes {stale : SessionHandle} {deadline : Nat}
    (here : m.operation? id = some (.recover i stale deadline)) :
    Goes m id (m.awaitRecovery now i id stale deadline) := by
  have ceases : Quietly m (m.finish id) := .one (.ceases id i stale deadline here) rfl
  unfold awaitRecovery
  split
  · exact .quietly ceases rfl
  · split
    · exact .quietly ceases rfl
    · exact .nothing rfl

theorem resume_goes {operation : Operation} {input : Input} (sound : Sound m)
    (here : m.operation? id = some operation) (fits : operation.expects input = true) :
    Goes m id (m.resume now id input) := by
  unfold resume
  rw [here]
  cases operation with
  | ensure i stage =>
    cases stage with
    | inLine => exact tryTurn_goes here rfl rfl
    | attempting attempt => exact advance_goes .ensure here fits
    | fresh | backoff | detaching => exact .nothing rfl
  | reattach i stage =>
    cases stage with
    | fresh =>
      have lined : Quietly m ((m.joinAttachLine i id).setOperation id (.reattach i .inLine)) :=
        .one (.linesUp id i here) rfl
      exact .afterQuiet lined (tryTurn_goes (operation?_replaced _ here) rfl rfl)
    | inLine => exact tryTurn_goes here rfl rfl
    | backoff => exact openSession_goes here
    | attempting attempt => exact advance_goes .reattach here fits
    | detaching => exact .nothing rfl
  | detach i stage =>
    cases stage with
    | detaching =>
      cases input with
      | closed answer => exact .one (.leaves id _ _ here rfl) rfl rfl
      | turn | attached | probed => exact .nothing rfl
    | inLine => exact tryTurn_goes here rfl rfl
    | fresh | backoff | attempting =>
      rcases sound.crew.staged id _ here with staged | staged <;> exact Stage.noConfusion staged
  | acquire i => exact takeLease_goes here
  | recover i stale deadline => exact awaitRecovery_goes here

/-! ## Beginnings -/

/-- The slot of a target is made when it is wanted. -/
theorem slotOf_quietly (m : Manager) (target : String) : Quietly m (m.slotOf target).1 := by
  unfold slotOf
  split
  · exact .nothing m
  · next missing => exact .one (.makes target missing) rfl

theorem slotOf_known (m : Manager) (target : String) :
    ((m.slotOf target).1.slot (m.slotOf target).2).known = true ∧
      ((m.slotOf target).1.slot (m.slotOf target).2).target = target := by
  unfold slotOf
  split
  · next found => exact find?_some found
  · rw [slot_added, if_pos rfl]
    exact ⟨rfl, rfl⟩

/-- A call begins, lines up and takes its turn if nobody is before it. -/
theorem enter_goes {operation : Operation} (sound : Sound m) (known : (m.slot i).known = true)
    (call : operation = .ensure i .inLine ∨ operation = .detach i .inLine) :
    Goes m m.nextOperation ((m.begin operation).1.lineUp now i m.nextOperation operation) := by
  have entered : Quietly m (((m.begin operation).1.joinAttachLine i m.nextOperation).setOperation
      m.nextOperation operation) := .one (.enters i operation known call) rfl
  refine .afterQuiet entered (tryTurn_goes ?_ ?_ ?_)
  · exact operation?_replaced operation (operation?_begun operation sound.crew.fresh)
  · rcases call with rfl | rfl <;> rfl
  · rcases call with rfl | rfl <;> rfl

theorem ensure_goes (sound : Sound m) (target : String) :
    Goes m (m.ensure now target).2.1 ((m.ensure now target).1, (m.ensure now target).2.2) := by
  have made := slotOf_quietly m target
  obtain ⟨known, _⟩ := slotOf_known m target
  refine .afterQuiet made ?_
  unfold ensure
  simp only
  split
  · exact .nothing rfl
  · exact enter_goes (made.sound sound) known (.inl rfl)

theorem detach_goes (sound : Sound m) (target : String) :
    Goes m (m.detach now target).2.1 ((m.detach now target).1, (m.detach now target).2.2) := by
  have made := slotOf_quietly m target
  obtain ⟨known, _⟩ := slotOf_known m target
  refine .afterQuiet made ?_
  exact enter_goes (made.sound sound) known (.inr rfl)

theorem acquire_goes (sound : Sound m) (target : String) :
    Goes m (m.acquire target).2.1 ((m.acquire target).1, (m.acquire target).2.2) := by
  have made := slotOf_quietly m target
  obtain ⟨known, _⟩ := slotOf_known m target
  have here := operation?_begun (.acquire (m.slotOf target).2) (made.sound sound).crew.fresh
  refine .afterQuiet made ?_
  exact .afterQuiet (.one (.queues _ known) rfl) (takeLease_goes here)

/-- A session under a script is replaced if it is still the one of the slot. -/
theorem startReattach_acts (known : (m.slot i).known = true) (running : (m.slot i).running = true)
    (session : String) : ∃ deed?, Acts m deed? (m.startReattach i session) ∧
      deed?.bind Deed.asked? = none ∧ Ordinary deed? := by
  unfold startReattach
  split
  · next on =>
    cases state : (m.slot i).state with
    | attached handle =>
      exact ⟨_, .one (.loses i handle known running state), rfl, .some rfl⟩
    | detached | attaching | reattaching =>
      rw [state] at on
      cases on
  · exact ⟨none, .nothing m, rfl, .none⟩

/-- The slot of a recovery, with the replacement started if there is a script to save. -/
theorem restarted_acts (known : (m.slot i).known = true) (session : String) :
    ∃ deed?, Acts m deed? (if (m.slot i).running then m.startReattach i session else m) ∧
      deed?.bind Deed.asked? = none ∧ Ordinary deed? := by
  split
  · next running => exact startReattach_acts known running session
  · exact ⟨none, .nothing m, rfl, .none⟩

theorem length_restarted (session : String) :
    (if (m.slot i).running then m.startReattach i session else m).slots.length =
      m.slots.length := by
  unfold startReattach
  split
  · split
    · exact length_publish _
    · rfl
  · rfl

/-- Somebody watches for a newer session, unless it is clear at once what comes. -/
theorem watch_quietly (sound : Sound m) (inside : i < m.slots.length) (stale : SessionHandle)
    (deadline : Nat) :
    Quietly m (m.begin (.recover i stale deadline)).1 ∧
      Quietly m ((m.begin (.recover i stale deadline)).1.finish m.nextOperation) := by
  have watches : Quietly m (m.begin (.recover i stale deadline)).1 :=
    .one (.watches i stale deadline inside) rfl
  have here := operation?_begun (.recover i stale deadline) sound.crew.fresh
  exact ⟨watches, watches.trans (.one (.ceases m.nextOperation i stale deadline here) rfl)⟩

theorem recover_goes (sound : Sound m) (stale : SessionHandle) :
    Goes m (m.recover now stale).2.1 ((m.recover now stale).1, (m.recover now stale).2.2) := by
  have made := slotOf_quietly m stale.targetId
  obtain ⟨known, _⟩ := slotOf_known m stale.targetId
  obtain ⟨deed?, acts, silent, ordinary⟩ := restarted_acts known stale.sessionId
  have inside := inside_of_known known
  rw [← length_restarted stale.sessionId] at inside
  have watch := watch_quietly (acts.sound (made.sound sound)) inside stale
  refine .afterQuiet made ⟨deed?, ?_, ordinary⟩
  unfold recover
  simp only
  split
  · exact ⟨acts.thenQuiet (watch _).2, by rw [silent]; rfl⟩
  · exact ⟨acts.thenQuiet (watch _).1, by rw [silent]; rfl⟩

/-! ## All moves -/

theorem release_acts (lease : OperationId) : ∃ deed?, Acts m deed? (m.release lease) ∧
    deed?.bind Deed.asked? = none ∧ Ordinary deed? := by
  unfold release
  split
  · next i here => exact ⟨_, .one (.leavesScripts lease i here), rfl, .some rfl⟩
  · exact ⟨none, .nothing m, rfl, .none⟩

theorem abandon_acts (id : OperationId) : ∃ deed?, Acts m deed? (m.abandon id) ∧
    deed?.bind Deed.asked? = none ∧
    ∀ deed, deed? = some deed →
      deed.isOrdinary = true ∨ ∃ operation, deed = .leaves id operation := by
  unfold abandon
  cases here : m.operation? id with
  | none => exact ⟨none, .nothing m, rfl, nofun⟩
  | some operation =>
    cases operation with
    | ensure i stage | reattach i stage | detach i stage =>
      refine ⟨_, .one (.leaves id _ stage here rfl), rfl, fun _ same => ?_⟩
      exact .inr ⟨_, (Option.some.inj same).symm⟩
    | acquire i =>
      refine ⟨_, .one (.leavesScripts id i here), rfl, fun _ same => ?_⟩
      exact .inl (Ordinary.some rfl _ same)
    | recover i stale deadline =>
      refine ⟨_, .one (.ceases id i stale deadline here), rfl, fun _ same => ?_⟩
      exact .inl (Ordinary.some rfl _ same)

theorem noticeDetach_acts (known : (m.slot i).known = true) (session : String) :
    ∃ deed?, Acts m deed? (m.noticeDetach i session) ∧ deed?.bind Deed.asked? = none ∧
      Ordinary deed? := by
  unfold noticeDetach
  split
  · next on =>
    split
    · next running => exact startReattach_acts known running session
    · cases state : (m.slot i).state with
      | attached handle => exact ⟨_, .one (.drops i handle known state), rfl, .some rfl⟩
      | detached | attaching | reattaching =>
        rw [state] at on
        cases on
  · exact ⟨none, .nothing m, rfl, .none⟩

theorem notice_acts (event : SessionEvent) : ∃ deed?, Acts m deed? (m.notice event) ∧
    deed?.bind Deed.asked? = none ∧
    ∀ deed, deed? = some deed → deed.isOrdinary = true ∨
      ∃ target i, event = .targetClosed target ∧ m.find? target = some i ∧ deed = .closes i := by
  cases event with
  | detached target session reason =>
    simp only [notice]
    split
    · next i found =>
      obtain ⟨deed?, acts, silent, ordinary⟩ := noticeDetach_acts (find?_some found).1 session
      exact ⟨deed?, acts, silent, fun deed same => .inl (ordinary deed same)⟩
    · exact ⟨none, .nothing m, rfl, nofun⟩
  | targetClosed target =>
    simp only [notice]
    split
    · next i found =>
      refine ⟨_, .one (.closes i (find?_some found).1), rfl, fun deed same => .inr ?_⟩
      exact ⟨target, i, rfl, found, (Option.some.inj same).symm⟩
    · exact ⟨none, .nothing m, rfl, nofun⟩
  | disconnected => exact ⟨none, .nothing m, rfl, nofun⟩

/-- What is behind a deed that is not ordinary. -/
def Explains (m : Manager) (move : Move) (deed : Deed) : Prop :=
  deed.isOrdinary = true ∨ (∃ id operation, move = .abandon id ∧ deed = .leaves id operation) ∨
    ∃ target i, move = .notice (.targetClosed target) ∧ m.find? target = some i ∧ deed = .closes i

theorem Goes.effect {next : Manager × Wait} {move : Move} (goes : Goes m id next) :
    ∃ deed?, Effect m deed? next.1 (some (id, next.2)) ∧
      ∀ deed, deed? = some deed → Explains m move deed := by
  obtain ⟨deed?, effect, ordinary⟩ := goes
  exact ⟨deed?, effect, fun deed same => .inl (ordinary deed same)⟩

/-- What a move does is at most one deed that anybody sees. Only who gives up leaves in the middle
of an attempt, and only an event closes a target. -/
theorem move_effect (now : Nat) {move : Move} (sound : Sound m) (allowed : m.Allows move) :
    ∃ deed?, Effect m deed? (m.move now move).1 (m.move now move).2 ∧
      ∀ deed, deed? = some deed → Explains m move deed := by
  have silently : ∀ {after : Manager} {deed? : Option Deed}, Acts m deed? after →
      deed?.bind Deed.asked? = none → Effect m deed? after none :=
    fun acts silent => ⟨acts, by rw [silent]; rfl⟩
  cases move with
  | ensure target => exact (ensure_goes sound target).effect
  | detach target => exact (detach_goes sound target).effect
  | acquire target => exact (acquire_goes sound target).effect
  | recover stale => exact (recover_goes sound stale).effect
  | resume id input =>
    obtain ⟨operation, here, fits⟩ := allowed
    exact (resume_goes sound here fits).effect
  | release lease =>
    obtain ⟨deed?, acts, silent, ordinary⟩ := release_acts lease
    exact ⟨deed?, silently acts silent, fun deed same => .inl (ordinary deed same)⟩
  | abandon id =>
    obtain ⟨deed?, acts, silent, explained⟩ := abandon_acts id
    refine ⟨deed?, silently acts silent, fun deed same => ?_⟩
    rcases explained deed same with ordinary | ⟨operation, leaves⟩
    · exact .inl ordinary
    · exact .inr (.inl ⟨id, operation, rfl, leaves⟩)
  | notice event =>
    obtain ⟨deed?, acts, silent, explained⟩ := notice_acts event
    refine ⟨deed?, silently acts silent, fun deed same => ?_⟩
    rcases explained deed same with ordinary | ⟨target, i, rfl, found, closes⟩
    · exact .inl ordinary
    · exact .inr (.inr ⟨target, i, rfl, found, closes⟩)

theorem Reaches.sound {settings : Settings} (reaches : Reaches settings now m) : Sound m := by
  induction reaches with
  | start => exact sound_ofSettings settings
  | wait _ _ induction => exact induction
  | move move _ allowed induction =>
    obtain ⟨_, effect, _⟩ := move_effect _ induction allowed
    exact effect.acts.sound induction

end BrowserScript.Session

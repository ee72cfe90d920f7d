import BrowserScript.Proofs.Session.Published

/-!
# Custody of sessions

Between being obtained and being gone, a session is in one of two places: an attempt to attach waits
for its page, or it is that of a slot. Main definitions: `Session.Manager.waiting?`,
`Session.Manager.held?`, `Session.Report`, `Session.Manager.reports`, `Session.Turnover`. Main
result: `Session.move_turnover`.
-/

set_option autoImplicit false

namespace BrowserScript.Session

open Manager

/-! ## Where a session is -/

/-- The session whose page an attempt waits for. -/
def Attempt.session? : Attempt → Option String
  | probing session _ | pausing session _ => some session
  | opening | closing _ _ => none

/-- The slot and the session whose page an operation waits for. -/
def Operation.awaited? : Operation → Option (SlotId × String)
  | ensure i (.attempting attempt) | reattach i (.attempting attempt) =>
    attempt.session?.map (i, ·)
  | _ => none

namespace Manager

/-- Where an operation waits for the page of which session. -/
def waiting? (m : Manager) (id : OperationId) : Option (SlotId × String) :=
  (m.operation? id).bind Operation.awaited?

/-- The session of a slot. -/
def held? (m : Manager) (i : SlotId) : Option String :=
  (m.slot i).state.handle?.map SessionHandle.sessionId

end Manager

/-! ## What is reported of sessions -/

inductive Report where
  /-- The browser has attached; `home` says whether the slot is still that of its target. -/
  | obtained (session target : String) (home : Bool)
  /-- The browser is asked to give the session up. -/
  | released (session : String)
  /-- A call on the session has failed because the session is gone. -/
  | failed (session : String)
  | detached (target session : String)
  | closed (target : String)
  /-- The attempt that waited for the page of the session has been given up. -/
  | dropped (session : String)
  deriving DecidableEq, Repr

/-- The browser tells of its own accord. -/
def Report.isEvent : Report → Bool
  | detached _ _ | closed _ => true
  | _ => false

namespace Manager

/-- What an operation hears of a session when it goes on. -/
def hears (m : Manager) (operation : Operation) : Input → List Report
  | .attached (.ok session) =>
    [.obtained session (m.slot operation.slot).target (m.slot operation.slot).known]
  | .probed (.error error) =>
    if error.isDetach then (operation.awaited?.map fun awaited => .failed awaited.2).toList else []
  | _ => []

/-- What the manager hears of sessions in a move. -/
def heard (m : Manager) : Move → List Report
  | .resume id input => ((m.operation? id).map (m.hears · input)).getD []
  | .abandon id => ((m.waiting? id).map fun awaited => .dropped awaited.2).toList
  | .notice (.detached target session _) => [.detached target session]
  | .notice (.targetClosed target) => [.closed target]
  | _ => []

end Manager

/-- What a wait tells the browser of sessions. -/
def Wait.tells : Wait → List Report
  | close session => [.released session]
  | _ => []

/-- What is reported of sessions in a move. -/
def Manager.reports (m : Manager) (now : Nat) (move : Move) : List Report :=
  ((m.move now move).2.map fun told => told.2.tells).getD [] ++ m.heard move

/-- The session that a move says is lost. -/
def Move.stale? : Move → Option String
  | recover stale => some stale.sessionId
  | _ => none

/-! ## Sessions change places -/

variable {m middle after : Manager} {deed : Deed} {i j : SlotId} {id other : OperationId}
  {now : Nat} {session target : String} {reports : List Report} {stale? : Option String}

/-- What becomes of sessions in a move: one at most changes its place. -/
inductive Turnover (m after : Manager) (reports : List Report) (stale? : Option String) : Prop
  | nothing (held : ∀ j, after.held? j = m.held? j)
      (waiting : ∀ other, after.waiting? other = m.waiting? other)
      (silent : ∀ report ∈ reports, report.isEvent = true)
  /-- An operation has got a session and waits for its page. -/
  | obtains (id : OperationId) (i : SlotId) (session : String)
      (held : ∀ j, after.held? j = m.held? j) (before : m.waiting? id = none)
      (waiting : ∀ other,
        after.waiting? other = if other = id then some (i, session) else m.waiting? other)
      (inside : i < after.slots.length)
      (obtained : reports = [.obtained session (after.slot i).target (after.slot i).known])
  /-- A session whose page has been waited for becomes that of the slot. -/
  | publishes (id : OperationId) (i : SlotId) (session : String)
      (empty : m.held? i = none) (before : m.waiting? id = some (i, session))
      (held : ∀ j, after.held? j = if i = j then some session else m.held? j)
      (waiting : ∀ other, after.waiting? other = if other = id then none else m.waiting? other)
      (silent : reports = [])
  /-- The page of a session is waited for no longer. -/
  | givesUp (id : OperationId) (i : SlotId) (session : String)
      (held : ∀ j, after.held? j = m.held? j) (before : m.waiting? id = some (i, session))
      (waiting : ∀ other, after.waiting? other = if other = id then none else m.waiting? other)
      (reason : reports = [.released session] ∨ reports = [.failed session] ∨
        reports = [.dropped session])
  /-- A session is no longer that of the slot. -/
  | loses (i : SlotId) (session : String) (known : (m.slot i).known = true)
      (before : m.held? i = some session)
      (held : ∀ j, after.held? j = if i = j then none else m.held? j)
      (waiting : ∀ other, after.waiting? other = m.waiting? other)
      (reason : reports = [.released session] ∨ reports = [] ∧ stale? = some session ∨
        reports = [.detached (m.slot i).target session] ∨ reports = [.closed (m.slot i).target])

attribute [local grind] Operation.slot Operation.stage? Operation.isLined Operation.isBusy
  Operation.isCall Operation.isAttempting Operation.awaited? Attempt.session? Purpose.operation
  Deed.isQuiet held? waiting? SessionState.handle? concluded Report.isEvent

/-! ## What nobody sees -/

/-- A change that leaves sessions where they are. -/
structure Leaves (m after : Manager) : Prop where
  held : ∀ j, after.held? j = m.held? j
  waiting : ∀ other, after.waiting? other = m.waiting? other
  slots : ∀ j, j < m.slots.length → j < after.slots.length ∧
    (after.slot j).known = (m.slot j).known ∧ (after.slot j).target = (m.slot j).target

theorem Leaves.refl (m : Manager) : Leaves m m :=
  ⟨fun _ => rfl, fun _ => rfl, fun _ inside => ⟨inside, rfl, rfl⟩⟩

theorem Leaves.trans (early : Leaves m middle) (late : Leaves middle after) : Leaves m after := by
  obtain ⟨held, waiting, slots⟩ := early
  obtain ⟨held', waiting', slots'⟩ := late
  constructor <;> grind

theorem Does.leaves_sessions (does : Does m deed after) (sound : Sound m)
    (quiet : deed.isQuiet = true) : Leaves m after := by
  have fresh := sound.crew.fresh
  have idle : (m.slot m.slots.length).state = .detached := by
    rw [slot_outside (Nat.le_refl _)]
    rfl
  cases does with
  | _ => first | exact Bool.noConfusion quiet | constructor <;> grind

theorem Quietly.leaves_sessions (done : Quietly m after) (sound : Sound m) : Leaves m after := by
  obtain ⟨deeds, done, quiet⟩ := done
  induction done with
  | none m => exact .refl m
  | next does _ induction =>
    have first := does.leaves_sessions sound (quiet _ List.mem_cons_self)
    refine first.trans (induction (does.sound sound) fun deed member => ?_)
    exact quiet deed (List.mem_cons_of_mem _ member)

theorem inside_of_held (held : m.held? i = some session) : i < m.slots.length := by
  by_contra outside
  rw [held?, slot_outside (Nat.le_of_not_lt outside)] at held
  cases held

theorem Turnover.afterLeaves (early : Leaves m middle)
    (turnover : Turnover middle after reports stale?) : Turnover m after reports stale? := by
  obtain ⟨same, sameToo, slots⟩ := early
  cases turnover with
  | nothing held waiting silent => exact .nothing (by grind) (by grind) silent
  | obtains id i session held before waiting inside obtained =>
    exact .obtains id i session (by grind) (by grind) (by grind) inside obtained
  | publishes id i session empty before held waiting silent =>
    exact .publishes id i session (by grind) (by grind) (by grind) (by grind) silent
  | givesUp id i session held before waiting reason =>
    exact .givesUp id i session (by grind) (by grind) (by grind) reason
  | loses i session known before held waiting reason =>
    rw [same] at before
    obtain ⟨_, sameKnown, home⟩ := slots i (inside_of_held before)
    rw [home] at reason
    exact .loses i session (sameKnown ▸ known) before (by grind) (by grind) reason

theorem Turnover.thenLeaves (turnover : Turnover m middle reports stale?)
    (late : Leaves middle after) : Turnover m after reports stale? := by
  obtain ⟨same, sameToo, slots⟩ := late
  cases turnover with
  | nothing held waiting silent => exact .nothing (by grind) (by grind) silent
  | obtains id i session held before waiting inside obtained =>
    obtain ⟨still, known, home⟩ := slots i inside
    rw [← known, ← home] at obtained
    exact .obtains id i session (by grind) (by grind) (by grind) still obtained
  | publishes id i session empty before held waiting silent =>
    exact .publishes id i session (by grind) (by grind) (by grind) (by grind) silent
  | givesUp id i session held before waiting reason =>
    exact .givesUp id i session (by grind) (by grind) (by grind) reason
  | loses i session known before held waiting reason =>
    exact .loses i session known before (by grind) (by grind) reason

theorem Leaves.turnover (leaves : Leaves m after)
    (silent : ∀ report ∈ reports, report.isEvent = true) :
    Turnover m after reports stale? :=
  .nothing leaves.held leaves.waiting silent

/-! ## Operations that go on -/

/-- What an operation reports of sessions when it goes on. -/
def Turns (m : Manager) (heard : List Report) (next : Manager × Wait) : Prop :=
  Turnover m next.1 (next.2.tells ++ heard) none

theorem Turns.leaves {wait : Wait} (leaves : Leaves m after) (silent : wait.tells = []) :
    Turns m [] (after, wait) :=
  leaves.turnover (by rw [silent]; exact fun _ member => absurd member List.not_mem_nil)

theorem takeTurn_turns {operation : Operation} (here : m.operation? id = some operation)
    (belongs : operation.slot = i) (waits : operation.stage? = some .inLine) (sound : Sound m) :
    Turns m [] (m.takeTurn now i id operation) := by
  have inside := sound.crew.placed id operation here
  cases operation with
  | ensure j stage =>
    obtain rfl : j = i := belongs
    obtain rfl : stage = .inLine := Option.some.inj waits
    simp only [takeTurn]
    split
    · exact .leaves (by constructor <;> grind) rfl
    · next unattached => exact .leaves (by constructor <;> grind [openSession, attempting]) rfl
  | reattach j stage =>
    obtain rfl : j = i := belongs
    obtain rfl : stage = .inLine := Option.some.inj waits
    simp only [takeTurn]
    split
    · exact .leaves (by constructor <;> grind) rfl
    · exact .leaves (by constructor <;> grind) rfl
  | detach j stage =>
    obtain rfl : j = i := belongs
    obtain rfl : stage = .inLine := Option.some.inj waits
    simp only [takeTurn]
    split
    · next handle attached =>
      have known : (m.slot j).known = true := sound.homes.kept id _ here rfl
      exact .loses j handle.sessionId known (by grind) (by grind) (by grind) (.inl rfl)
    · next unattached => exact .leaves (by constructor <;> grind) rfl
  | acquire | recover => cases waits

theorem tryTurn_turns {operation : Operation} (here : m.operation? id = some operation)
    (belongs : operation.slot = i) (waits : operation.stage? = some .inLine) (sound : Sound m) :
    Turns m [] (m.tryTurn now i id operation) := by
  unfold tryTurn
  split
  · exact takeTurn_turns here belongs waits sound
  · exact .leaves (.refl m) rfl

/-- A probe tells of the session exactly that it is gone. -/
theorem hears_probed (purpose : Purpose) (i : SlotId) (session : String) (deadline : Nat)
    (answer : Except PageError Json) :
    m.hears (purpose.operation i (.attempting (.probing session deadline))) (.probed answer) =
      match readiness answer with
      | .gone _ => [.failed session]
      | _ => [] := by
  have awaited : (purpose.operation i (.attempting (.probing session deadline))).awaited? =
      some (i, session) := by
    cases purpose <;> rfl
  cases answer with
  | ok value =>
    simp only [hears, readiness]
    cases Page.isReady value <;> rfl
  | error error =>
    simp only [hears, readiness, awaited]
    cases gone : error.isDetach with
    | true => rfl
    | false => cases error <;> rfl

section Attempts

variable {purpose : Purpose} {attempt : Attempt}
  (here : m.operation? id = some (purpose.operation i (.attempting attempt)))
include here

theorem waiting?_of_attempt : m.waiting? id = attempt.session?.map (i, ·) := by
  rw [waiting?, here]
  cases purpose <;> rfl

/-- While somebody attempts to attach, the slot has no session. -/
theorem held?_of_attempt (sound : Sound m) : m.held? i = none := by
  cases purpose with
  | ensure => rw [held?, sound.phases.attaching id i attempt here]; rfl
  | reattach => rw [held?, sound.phases.reattaching id i _ here rfl]; rfl

theorem places_of_continued (later : Attempt) :
    (∀ j, (m.setOperation id (purpose.operation i (.attempting later))).held? j = m.held? j) ∧
      ∀ other, (m.setOperation id (purpose.operation i (.attempting later))).waiting? other =
        if other = id then later.session?.map (i, ·) else m.waiting? other := by
  cases purpose <;> constructor <;> grind

end Attempts

theorem places_of_failed (purpose : Purpose) (empty : m.held? i = none) (error : PageError) :
    (∀ j, (m.conclude purpose i id (.error error)).1.held? j = m.held? j) ∧
      ∀ other, (m.conclude purpose i id (.error error)).1.waiting? other =
        if other = id then none else m.waiting? other := by
  constructor <;> grind

theorem places_of_succeeded (purpose : Purpose) (inside : i < m.slots.length) (session : String) :
    (∀ j, (m.succeed purpose i id session).1.held? j =
        if i = j then some session else m.held? j) ∧
      ∀ other, (m.succeed purpose i id session).1.waiting? other =
        if other = id then none else m.waiting? other := by
  constructor <;> grind [granted]

/-- An operation goes on to a stage in which it waits for the same page, or for none as before. -/
theorem Turns.stays {wait : Wait} {place : Option (SlotId × String)}
    (before : m.waiting? id = place) (silent : wait.tells = [])
    (places : (∀ j, after.held? j = m.held? j) ∧
      ∀ other, after.waiting? other = if other = id then place else m.waiting? other) :
    Turns m [] (after, wait) := by
  obtain ⟨held, waiting⟩ := places
  refine .nothing held (fun other => ?_) ?_
  · rw [waiting]
    split
    · next same => rw [same, before]
    · rfl
  · rw [silent]
    exact fun _ member => absurd member List.not_mem_nil

/-- An attempt comes from asking for a session to waiting for its page, and from there to the end,
or the page is given up. -/
theorem advance_turns (purpose : Purpose) {attempt : Attempt} {input : Input} (sound : Sound m)
    (here : m.operation? id = some (purpose.operation i (.attempting attempt)))
    (fits : attempt.expects input = true) :
    Turns m (m.hears (purpose.operation i (.attempting attempt)) input)
      (m.advance now purpose i id attempt input) := by
  have inside : i < m.slots.length := by
    rw [← slot_operation purpose i (.attempting attempt)]
    exact sound.crew.placed id _ here
  have empty := held?_of_attempt here sound
  have before := waiting?_of_attempt here
  cases attempt with
  | opening =>
    cases input with
    | attached answer =>
      cases answer with
      | ok session =>
        obtain ⟨held, waiting⟩ :=
          places_of_continued here (.probing session (now + m.settings.readyTimeoutMs.toNat))
        refine .obtains id i session held before waiting inside ?_
        simp only [hears, slot_operation]
        rfl
      | error error =>
        exact .stays before (by cases purpose <;> rfl) (places_of_failed purpose empty error)
    | turn | probed | closed => exact Bool.noConfusion fits
  | probing session deadline =>
    cases input with
    | probed answer =>
      rw [hears_probed]
      simp only [advance]
      cases readiness answer with
      | ready =>
        obtain ⟨held, waiting⟩ := places_of_succeeded purpose inside session
        exact .publishes id i session empty before held waiting rfl
      | gone error =>
        obtain ⟨held, waiting⟩ := places_of_failed purpose empty error
        exact .givesUp id i session held before waiting (.inr (.inl rfl))
      | unusable error =>
        obtain ⟨held, waiting⟩ := places_of_continued here (.closing session error)
        exact .givesUp id i session held before waiting (.inl rfl)
      | notYet =>
        dsimp only
        split
        · obtain ⟨held, waiting⟩ := places_of_succeeded purpose inside session
          exact .publishes id i session empty before held waiting rfl
        · exact .stays before rfl (places_of_continued here (.pausing session deadline))
    | turn | attached | closed => exact Bool.noConfusion fits
  | pausing session deadline =>
    cases input with
    | turn => exact .stays before rfl (places_of_continued here (.probing session deadline))
    | attached | probed | closed => exact Bool.noConfusion fits
  | closing session error =>
    cases input with
    | closed answer =>
      exact .stays before (by cases purpose <;> rfl) (places_of_failed purpose empty error)
    | turn | attached | probed => exact Bool.noConfusion fits

/-- Only who attempts to attach hears of sessions. -/
theorem hears_nothing {operation : Operation} {input : Input}
    (fits : operation.expects input = true) (idle : operation.isAttempting = false) :
    m.hears operation input = [] := by
  cases input with
  | turn | closed => rfl
  | attached | probed =>
    unfold Operation.expects at fits
    unfold Operation.isAttempting at idle
    cases found : operation.stage? with
    | none =>
      rw [found] at fits
      cases fits
    | some stage =>
      rw [found] at fits idle
      cases stage with
      | attempting => cases idle
      | fresh | inLine | backoff | detaching => cases fits

theorem takeLease_turns (m : Manager) (i : SlotId) (id : OperationId) :
    Turns m [] (m.takeLease i id) := by
  unfold takeLease
  split
  · exact .leaves (by constructor <;> grind) rfl
  · exact .leaves (.refl m) rfl

theorem awaitRecovery_turns {stale : SessionHandle} {deadline : Nat}
    (here : m.operation? id = some (.recover i stale deadline)) :
    Turns m [] (m.awaitRecovery now i id stale deadline) := by
  have ceases : Leaves m (m.finish id) := by constructor <;> grind
  unfold awaitRecovery
  split
  · exact .leaves ceases rfl
  · split
    · exact .leaves ceases rfl
    · exact .leaves (.refl m) rfl

theorem resume_turns {operation : Operation} {input : Input} (sound : Sound m)
    (here : m.operation? id = some operation) (fits : operation.expects input = true) :
    Turns m (m.hears operation input) (m.resume now id input) := by
  have inside := sound.crew.placed id operation here
  have deaf := @hears_nothing m operation input fits
  unfold resume
  rw [here]
  cases operation with
  | ensure i stage =>
    cases stage with
    | inLine => exact deaf rfl ▸ tryTurn_turns here rfl rfl sound
    | attempting attempt => exact advance_turns .ensure sound here fits
    | fresh | backoff | detaching => exact deaf rfl ▸ .leaves (.refl m) rfl
  | reattach i stage =>
    cases stage with
    | fresh =>
      have lined : Quietly m ((m.joinAttachLine i id).setOperation id (.reattach i .inLine)) :=
        .one (.linesUp id i here) rfl
      rw [deaf rfl]
      refine Turnover.afterLeaves (lined.leaves_sessions sound) ?_
      exact tryTurn_turns (operation?_replaced _ here) rfl rfl (lined.sound sound)
    | inLine => exact deaf rfl ▸ tryTurn_turns here rfl rfl sound
    | backoff =>
      rw [deaf rfl]
      exact .leaves (by constructor <;> grind) rfl
    | attempting attempt => exact advance_turns .reattach sound here fits
    | detaching => exact deaf rfl ▸ .leaves (.refl m) rfl
  | detach i stage =>
    cases stage with
    | detaching =>
      rw [deaf rfl]
      cases input with
      | closed answer => exact .leaves (by constructor <;> grind) rfl
      | turn | attached | probed => exact .leaves (.refl m) rfl
    | inLine => exact deaf rfl ▸ tryTurn_turns here rfl rfl sound
    | fresh | backoff | attempting =>
      rcases sound.crew.staged id _ here with staged | staged <;> exact Stage.noConfusion staged
  | acquire i => exact deaf rfl ▸ takeLease_turns m i id
  | recover i stale deadline => exact deaf rfl ▸ awaitRecovery_turns here

/-! ## All moves -/

theorem Turns.afterQuiet {next : Manager × Wait} (early : Quietly m middle) (sound : Sound m)
    (turns : Turns middle [] next) : Turns m [] next :=
  Turnover.afterLeaves (early.leaves_sessions sound) turns

/-- A call begins, lines up and takes its turn if nobody is before it. -/
theorem enter_turns {operation : Operation} (sound : Sound m) (known : (m.slot i).known = true)
    (call : operation = .ensure i .inLine ∨ operation = .detach i .inLine) :
    Turns m [] ((m.begin operation).1.lineUp now i m.nextOperation operation) := by
  have entered : Quietly m (((m.begin operation).1.joinAttachLine i m.nextOperation).setOperation
      m.nextOperation operation) := .one (.enters i operation known call) rfl
  have here := operation?_begun operation sound.crew.fresh
  have still := entered.sound sound
  refine .afterQuiet entered sound ?_
  rcases call with rfl | rfl
  · exact tryTurn_turns (operation?_replaced _ here) rfl rfl still
  · exact tryTurn_turns (operation?_replaced _ here) rfl rfl still

theorem ensure_turns (sound : Sound m) (target : String) :
    Turns m [] ((m.ensure now target).1, (m.ensure now target).2.2) := by
  have made := slotOf_quietly m target
  obtain ⟨known, _⟩ := slotOf_known m target
  refine .afterQuiet made sound ?_
  unfold ensure
  simp only
  split
  · exact .leaves (.refl _) rfl
  · exact enter_turns (made.sound sound) known (.inl rfl)

theorem detach_turns (sound : Sound m) (target : String) :
    Turns m [] ((m.detach now target).1, (m.detach now target).2.2) := by
  have made := slotOf_quietly m target
  obtain ⟨known, _⟩ := slotOf_known m target
  refine .afterQuiet made sound ?_
  exact enter_turns (made.sound sound) known (.inr rfl)

theorem acquire_turns (sound : Sound m) (target : String) :
    Turns m [] ((m.acquire target).1, (m.acquire target).2.2) := by
  have made := slotOf_quietly m target
  obtain ⟨known, _⟩ := slotOf_known m target
  have queued : Quietly (m.slotOf target).1 _ := .one (.queues (m.slotOf target).2 known) rfl
  exact .afterQuiet (made.trans queued) sound (takeLease_turns _ _ _)

theorem held?_iff : m.held? i = some session ↔ (m.slot i).state.isOn session = true := by
  unfold held? SessionState.isOn
  cases (m.slot i).state with
  | attached handle => simp [SessionState.handle?]
  | detached | attaching | reattaching => exact ⟨nofun, nofun⟩

theorem held?_attached {handle : SessionHandle}
    (attached : (m.slot i).state = .attached handle) : m.held? i = some handle.sessionId := by
  rw [held?, attached]
  rfl

/-- Why a session can be no longer that of its slot without the browser being told. -/
def Gone (m : Manager) (i : SlotId) (session : String) (reports : List Report)
    (stale? : Option String) : Prop :=
  reports = [] ∧ stale? = some session ∨ reports = [.detached (m.slot i).target session]

theorem Gone.silent (gone : Gone m i session reports stale?) :
    ∀ report ∈ reports, report.isEvent = true := by
  rcases gone with ⟨rfl, _⟩ | rfl <;> simp [Report.isEvent]

theorem Turnover.gone (gone : Gone m i session reports stale?) (known : (m.slot i).known = true)
    (before : m.held? i = some session)
    (held : ∀ j, after.held? j = if i = j then none else m.held? j)
    (waiting : ∀ other, after.waiting? other = m.waiting? other) :
    Turnover m after reports stale? := by
  refine .loses i session known before held waiting (.inr ?_)
  rcases gone with lost | reported
  · exact .inl lost
  · exact .inr (.inl reported)

/-- A session that is lost under a script is no longer that of the slot. -/
theorem startReattach_turnover (sound : Sound m) (known : (m.slot i).known = true)
    (gone : Gone m i session reports stale?) :
    Turnover m (m.startReattach i session) reports stale? := by
  have fresh := sound.crew.fresh
  unfold startReattach
  split
  · next on =>
    have before := held?_iff.mpr on
    have inside := inside_of_held before
    exact .gone gone known before (by grind) (by grind)
  · exact (Leaves.refl m).turnover gone.silent

theorem noticeDetach_turnover (sound : Sound m) (known : (m.slot i).known = true)
    (session : String) :
    Turnover m (m.noticeDetach i session) [.detached (m.slot i).target session] none := by
  have gone : Gone m i session [.detached (m.slot i).target session] none := .inr rfl
  unfold noticeDetach
  split
  · next on =>
    split
    · exact startReattach_turnover sound known gone
    · have before := held?_iff.mpr on
      have inside := inside_of_held before
      exact .gone gone known before (by grind) (by grind)
  · exact (Leaves.refl m).turnover gone.silent

theorem handle?_closed (state : SessionState) : (closed state).handle? = none := by
  cases state <;> rfl

theorem noticeClose_turnover (known : (m.slot i).known = true) :
    Turnover m (m.noticeClose i) [.closed (m.slot i).target] none := by
  have inside := inside_of_known known
  have waiting : ∀ other, (m.noticeClose i).waiting? other = m.waiting? other := by grind
  have held : ∀ j, (m.noticeClose i).held? j = if i = j then none else m.held? j := by
    grind [handle?_closed]
  cases before : m.held? i with
  | none => exact .nothing (by grind) waiting (by simp [Report.isEvent])
  | some session => exact .loses i session known before held waiting (.inr (.inr (.inr rfl)))

theorem notice_turnover (sound : Sound m) (event : SessionEvent) :
    Turnover m (m.notice event) (m.heard (.notice event)) none := by
  cases event with
  | detached target session reason =>
    simp only [notice, Manager.heard]
    split
    · next found =>
      obtain ⟨known, rfl⟩ := find?_some found
      exact noticeDetach_turnover sound known session
    · exact (Leaves.refl m).turnover (by simp [Report.isEvent])
  | targetClosed target =>
    simp only [notice, Manager.heard]
    split
    · next found =>
      obtain ⟨known, rfl⟩ := find?_some found
      exact noticeClose_turnover known
    · exact (Leaves.refl m).turnover (by simp [Report.isEvent])
  | disconnected => exact (Leaves.refl m).turnover (by simp [Manager.heard])

theorem recover_turnover (sound : Sound m) (stale : SessionHandle) :
    Turnover m (m.recover now stale).1 (m.reports now (.recover stale)) (some stale.sessionId) := by
  have made := slotOf_quietly m stale.targetId
  obtain ⟨known, _⟩ := slotOf_known m stale.targetId
  have still := made.sound sound
  have restarted : Turnover (m.slotOf stale.targetId).1
      (if ((m.slotOf stale.targetId).1.slot (m.slotOf stale.targetId).2).running then
        (m.slotOf stale.targetId).1.startReattach (m.slotOf stale.targetId).2 stale.sessionId
      else (m.slotOf stale.targetId).1) [] (some stale.sessionId) := by
    split
    · exact startReattach_turnover still known (.inl ⟨rfl, rfl⟩)
    · exact (Leaves.refl _).turnover fun _ member => absurd member List.not_mem_nil
  obtain ⟨_, acts, _⟩ := restarted_acts known stale.sessionId
  have inside := inside_of_known known
  rw [← length_restarted stale.sessionId] at inside
  have soundToo := acts.sound still
  have watch := watch_quietly soundToo inside stale
  have silent : m.reports now (.recover stale) = [] := by
    simp only [reports, Manager.move, Manager.heard, recover]
    split <;> rfl
  rw [silent]
  refine .afterLeaves (made.leaves_sessions sound) ?_
  unfold recover
  simp only
  split
  · exact restarted.thenLeaves ((watch _).2.leaves_sessions soundToo)
  · exact restarted.thenLeaves ((watch _).1.leaves_sessions soundToo)

theorem release_turnover (lease : OperationId) : Turnover m (m.release lease) [] none := by
  unfold release
  split
  · next i here =>
    have left : Leaves m (m.leaveScripts i lease) := by constructor <;> grind
    exact left.turnover (by simp)
  · exact (Leaves.refl m).turnover (by simp [Report.isEvent])

/-- Who gives an attempt up does not wait for a page any longer. -/
theorem abandon_turnover (id : OperationId) :
    Turnover m (m.abandon id) (m.heard (.abandon id)) none := by
  have gone : (∀ j, (m.abandon id).held? j = m.held? j) ∧
      ∀ other, (m.abandon id).waiting? other = if other = id then none else m.waiting? other := by
    unfold abandon
    cases here : m.operation? id with
    | none => constructor <;> grind
    | some operation => cases operation <;> constructor <;> grind
  obtain ⟨held, waiting⟩ := gone
  simp only [Manager.heard]
  cases before : m.waiting? id with
  | none => exact .nothing held (by grind) (by simp)
  | some awaited =>
    exact .givesUp id awaited.1 awaited.2 held before waiting (.inr (.inr rfl))

/-- At most one session changes its place in a move, and if it is gone then there is a reason. -/
theorem move_turnover (now : Nat) {move : Move} (sound : Sound m) (allowed : m.Allows move) :
    Turnover m (m.move now move).1 (m.reports now move) move.stale? := by
  cases move with
  | ensure target => exact ensure_turns sound target
  | detach target => exact detach_turns sound target
  | acquire target => exact acquire_turns sound target
  | recover stale => exact recover_turnover sound stale
  | resume id input =>
    obtain ⟨operation, here, fits⟩ := allowed
    have heard : m.heard (.resume id input) = m.hears operation input := by
      simp only [Manager.heard, here]
      rfl
    simp only [reports, heard]
    exact resume_turns sound here fits
  | release lease => exact release_turnover lease
  | abandon id => exact abandon_turnover id
  | notice event => exact notice_turnover sound event

/-! ## Whose slot it is -/

/-- The session is in the custody of the slot. -/
def Manager.Has (m : Manager) (i : SlotId) (session : String) : Prop :=
  m.held? i = some session ∨ ∃ id, m.waiting? id = some (i, session)

theorem Turnover.has (turnover : Turnover m after reports stale?) (has : after.Has i session) :
    m.Has i session ∨
      reports = [.obtained session (after.slot i).target (after.slot i).known] := by
  unfold Has at has ⊢
  cases turnover <;> grind

/-- The page of a session is waited for from when the session is obtained. -/
theorem Turnover.waits (turnover : Turnover m after reports stale?)
    (waits : after.waiting? id = some (i, session)) :
    m.waiting? id = some (i, session) ∨
      reports = [.obtained session (after.slot i).target (after.slot i).known] := by
  cases turnover <;> grind

/-- A session that has been obtained is in the custody of a slot. -/
theorem Turnover.obtained (turnover : Turnover m after reports stale?) {home : Bool}
    (obtained : .obtained session target home ∈ reports) :
    ∃ i, after.Has i session ∧ reports = [.obtained session target home] := by
  unfold Has
  cases turnover <;> grind

/-- All that is reported is heard, except for what the browser is asked to give up. -/
theorem heard_of_reports {move : Move} {report : Report} (member : report ∈ m.reports now move)
    (other : ∀ session, report ≠ .released session) : report ∈ m.heard move := by
  unfold reports at member
  rcases List.mem_append.mp member with told | heard
  · cases tells : (m.move now move).2 with
    | none =>
      rw [tells] at told
      cases told
    | some entry =>
      obtain ⟨_, wait⟩ := entry
      rw [tells] at told
      cases wait with
      | close session => exact absurd (List.mem_singleton.mp told) (other session)
      | _ => cases told
  · exact heard

/-- A session is obtained when an operation goes on with it. -/
theorem reports_obtained {move : Move} {home : Bool}
    (obtained : .obtained session target home ∈ m.reports now move) :
    ∃ id operation, move = .resume id (.attached (.ok session)) ∧
      m.operation? id = some operation ∧ (m.slot operation.slot).target = target ∧
      (m.slot operation.slot).known = home := by
  have heard := heard_of_reports obtained nofun
  cases move with
  | resume id input =>
    simp only [Manager.heard] at heard
    cases here : m.operation? id with
    | none => simp [here] at heard
    | some operation =>
      simp only [here, Option.map_some, Option.getD_some] at heard
      unfold hears at heard
      split at heard
      · obtain ⟨rfl, rfl, rfl⟩ := Report.obtained.inj (List.mem_singleton.mp heard)
        exact ⟨id, operation, rfl, here, rfl, rfl⟩
      · split at heard <;> simp at heard
      · cases heard
  | notice event => cases event <;> simp [Manager.heard] at heard
  | abandon id => simp [Manager.heard] at heard
  | ensure | detach | acquire | recover | release => cases heard

/-- An attempt is reported as given up when somebody gives it up. -/
theorem reports_dropped {move : Move} (dropped : .dropped session ∈ m.reports now move) :
    ∃ id i, move = .abandon id ∧ m.waiting? id = some (i, session) := by
  have heard := heard_of_reports dropped nofun
  cases move with
  | abandon id =>
    simp only [Manager.heard, Option.mem_toList, Option.map_eq_some_iff] at heard
    obtain ⟨⟨i, other⟩, waits, same⟩ := heard
    cases same
    exact ⟨id, i, rfl, waits⟩
  | resume id input =>
    simp only [Manager.heard] at heard
    cases here : m.operation? id with
    | none => simp [here] at heard
    | some operation =>
      simp only [here, Option.map_some, Option.getD_some] at heard
      unfold hears at heard
      split at heard
      · simp at heard
      · split at heard <;> simp at heard
      · cases heard
  | notice event => cases event <;> simp [Manager.heard] at heard
  | ensure | detach | acquire | recover | release => cases heard

/-- A reason why a session is not in custody any more. -/
def Discharged (news : List Report) (session target : String) (home : Bool) : Prop :=
  .released session ∈ news ∨ .failed session ∈ news ∨ .dropped session ∈ news ∨
    home = true ∧ (.detached target session ∈ news ∨ .closed target ∈ news)

theorem Discharged.mono {early late : List Report} {home : Bool} (more : early ⊆ late)
    (discharged : Discharged early session target home) :
    Discharged late session target home := by
  unfold Discharged at discharged ⊢
  rcases discharged with released | failed | dropped | ⟨home, detached | closed⟩
  · exact .inl (more released)
  · exact .inr (.inl (more failed))
  · exact .inr (.inr (.inl (more dropped)))
  · exact .inr (.inr (.inr ⟨home, .inl (more detached)⟩))
  · exact .inr (.inr (.inr ⟨home, .inr (more closed)⟩))

/-- A slot loses the custody of a session only with a reason. -/
theorem Turnover.had (turnover : Turnover m after reports stale?) (had : m.Has i session) :
    after.Has i session ∨ stale? = some session ∨
      Discharged reports session (m.slot i).target (m.slot i).known := by
  unfold Has at had ⊢
  unfold Discharged
  cases turnover <;> grind

/-- A session is in one place at most. -/
structure Manager.Apart (m : Manager) : Prop where
  held : ∀ i j session, m.held? i = some session → m.held? j = some session → i = j
  waiting : ∀ id other i j session, m.waiting? id = some (i, session) →
    m.waiting? other = some (j, session) → id = other
  either : ∀ i j id session, m.held? i = some session → m.waiting? id ≠ some (j, session)

theorem Turnover.apart (turnover : Turnover m after reports stale?) (apart : m.Apart)
    (new : ∀ session target home, .obtained session target home ∈ reports →
      ∀ i, ¬ m.Has i session) : after.Apart := by
  obtain ⟨held, waiting, either⟩ := apart
  unfold Has at new
  cases turnover with
  | obtains id i session heldToo before waitingToo inside obtained =>
    have absent := new session _ _ (by rw [obtained]; exact List.mem_singleton_self _)
    constructor <;> grind
  | nothing | publishes | givesUp | loses => constructor <;> grind

/-- Who gives a session up has it no longer. -/
theorem Turnover.released (turnover : Turnover m after reports stale?) (apart : m.Apart)
    (released : .released session ∈ reports) (i : SlotId) : ¬ after.Has i session := by
  obtain ⟨held, waiting, either⟩ := apart
  unfold Has
  cases turnover <;> grind

theorem waiting?_eq_some (waits : m.waiting? id = some (i, session)) :
    ∃ operation, m.operation? id = some operation ∧ operation.slot = i ∧
      operation.isBusy = true := by
  obtain ⟨operation, here, awaited⟩ := Option.bind_eq_some_iff.mp waits
  refine ⟨operation, here, ?_⟩
  unfold Operation.awaited? at awaited
  split at awaited
  · obtain ⟨_, _, same⟩ := Option.map_eq_some_iff.mp awaited
    cases same
    exact ⟨rfl, rfl⟩
  · obtain ⟨_, _, same⟩ := Option.map_eq_some_iff.mp awaited
    cases same
    exact ⟨rfl, rfl⟩
  · cases awaited

theorem Manager.Has.inside (has : m.Has i session) (sound : Sound m) : i < m.slots.length := by
  rcases has with held | ⟨id, waits⟩
  · exact inside_of_held held
  · obtain ⟨operation, here, rfl, _⟩ := waiting?_eq_some waits
    exact sound.crew.placed id operation here

/-- A slot whose target is gone has no session, unless somebody attempts to attach to it. -/
theorem inUse_of_has (has : m.Has i session) (sound : Sound m) (empty : m.held? i = none) :
    (m.slot i).inUse = true := by
  rcases has with held | ⟨id, waits⟩
  · rw [empty] at held
    cases held
  · obtain ⟨operation, here, rfl, busy⟩ := waiting?_eq_some waits
    have first := sound.lines.first id operation here busy
    unfold Slot.inUse
    cases line : (m.slot operation.slot).attachLine with
    | nil => rw [line] at first; cases first
    | cons => simp

theorem Does.fixed (does : Does m deed after) (sound : Sound m) (inside : i < m.slots.length)
    (stays : ∀ j, deed ≠ .closes j) : i < after.slots.length ∧
      (after.slot i).known = (m.slot i).known ∧ (after.slot i).target = (m.slot i).target := by
  have placed := sound.crew.placed
  cases does with
  | closes => exact absurd rfl (stays _)
  | _ => grind

theorem Quietly.fixed (done : Quietly m after) (sound : Sound m) (inside : i < m.slots.length) :
    i < after.slots.length ∧ (after.slot i).known = (m.slot i).known ∧
      (after.slot i).target = (m.slot i).target :=
  (done.leaves_sessions sound).slots i inside

theorem noticeClose_fixed (sound : Sound m) (known : (m.slot i).known = true)
    (has : (m.noticeClose i).Has j session) :
    ((m.noticeClose i).slot j).known = (m.slot j).known := by
  rw [slot_noticeClose]
  split
  · next same =>
    obtain ⟨rfl, inside⟩ := same
    have empty : (m.noticeClose i).held? i = none := by grind [handle?_closed]
    have still := (Does.closes i known).sound sound
    have used := inUse_of_has has still empty
    have sameUse : ((m.noticeClose i).slot i).inUse = (m.slot i).inUse := by
      rw [slot_noticeClose, if_pos ⟨rfl, inside⟩]
      rfl
    rw [sameUse] at used
    simp only [used, Bool.and_true]
  · rfl

/-- A slot that has a session stays what it is to its target. -/
theorem move_fixed (sound : Sound m) {move : Move} (allowed : m.Allows move)
    (has : (m.move now move).1.Has i session) (inside : i < m.slots.length) :
    ((m.move now move).1.slot i).known = (m.slot i).known ∧
      ((m.move now move).1.slot i).target = (m.slot i).target := by
  obtain ⟨deed?, effect, explained⟩ := move_effect now sound allowed
  obtain ⟨acts, _⟩ := effect
  by_cases closes : ∃ j, deed? = some (.closes j)
  · obtain ⟨j, rfl⟩ := closes
    rcases explained _ rfl with ordinary | ⟨_, _, _, leaves⟩ | ⟨target, k, rfl, found, same⟩
    · cases ordinary
    · cases leaves
    · cases same
      have known := (find?_some found).1
      have shape : (m.move now (.notice (.targetClosed target))).1 = m.noticeClose j := by
        simp only [Manager.move, notice, found]
      rw [shape] at has ⊢
      refine ⟨noticeClose_fixed sound known has, ?_⟩
      rw [slot_noticeClose]
      split <;> rfl
  · cases acts with
    | quietly done => exact (done.fixed sound inside).2
    | once early does late =>
      have stays : ∀ j, _ ≠ Deed.closes j := fun j same => closes ⟨j, congrArg some same⟩
      have soundBefore := early.sound sound
      obtain ⟨insideBefore, known, home⟩ := early.fixed sound inside
      obtain ⟨insideLater, knownToo, homeToo⟩ := does.fixed soundBefore insideBefore stays
      obtain ⟨_, knownLast, homeLast⟩ := late.fixed (does.sound soundBefore) insideLater
      exact ⟨knownLast.trans (knownToo.trans known), homeLast.trans (homeToo.trans home)⟩

end BrowserScript.Session

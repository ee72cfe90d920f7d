import BrowserScript.Proofs.Session.Reattachment

/-!
# The life of a session

As long as nobody gives up, the state of a target changes as it should, and a target that is on its
way to a session never waits for nobody. Main definition: `Session.Lifecycle`. Main result:
`Session.Runs.lifecycle`.
-/

set_option autoImplicit false

namespace BrowserScript.Session

open Manager

variable {settings : Settings} {now : Nat} {m after : Manager} {deed : Deed} {deed? : Option Deed}
  {i : SlotId} {id : OperationId} {handle : SessionHandle} {target : String}
  {past : List Passage}

/-! ## Targets that are being attached -/

attribute [local grind] Operation.isAttempting Operation.stage? concluded
attribute [local grind =] closed_eq

/-- A slot that is being attached has a call that does it. -/
def Attended (m : Manager) : Prop :=
  ∀ i, (m.slot i).state = .attaching →
    ∃ id attempt, m.operation? id = some (.ensure i (.attempting attempt))

/-- A call that attaches goes on with it until it publishes what became of it. -/
theorem Does.goesOn (does : Does m deed after) (sound : Sound m)
    (patient : ∀ id operation, deed = .leaves id operation → operation.isAttempting = false)
    {attempt : Attempt} (here : m.operation? id = some (.ensure i (.attempting attempt))) :
    (after.slot i).state ≠ .attaching ∨
      ∃ later, after.operation? id = some (.ensure i (.attempting later)) := by
  have fresh := sound.crew.fresh
  have inside : i < m.slots.length := sound.crew.placed id _ here
  cases does with
  | proceeds id' j purpose before later there =>
    by_cases same : id' = id
    · subst same
      cases purpose with
      | ensure =>
        cases here.symm.trans there
        exact .inr ⟨later, operation?_replaced _ here⟩
      | reattach => cases here.symm.trans there
    · exact .inr ⟨attempt, by grind⟩
  | succeeds id' j purpose _ _ there | fails id' j purpose _ _ there =>
    by_cases same : id' = id
    · subst same
      cases purpose with
      | ensure => cases here.symm.trans there; exact .inl (by grind)
      | reattach => cases here.symm.trans there
    · exact .inr ⟨attempt, by grind⟩
  | leaves id' operation =>
    have waits := patient id' operation rfl
    exact .inr ⟨attempt, by grind⟩
  | _ => exact .inr ⟨attempt, by grind⟩

theorem Does.attaching (does : Does m deed after) (attaching : (after.slot i).state = .attaching) :
    (m.slot i).state = .attaching ∨ ∃ id, deed = .asks id i := by
  cases does with
  | asks id j =>
    by_cases same : j = i
    · exact .inr ⟨id, same ▸ rfl⟩
    · exact .inl (by grind)
  | _ => exact .inl (by grind)

theorem Does.attended (does : Does m deed after) (sound : Sound m)
    (patient : ∀ id operation, deed = .leaves id operation → operation.isAttempting = false)
    (attended : Attended m) : Attended after := by
  intro i attaching
  rcases does.attaching attaching with before | ⟨id, rfl⟩
  · obtain ⟨id, attempt, here⟩ := attended i before
    rcases does.goesOn sound patient here with published | ⟨later, still⟩
    · exact absurd attaching published
    · exact ⟨id, later, still⟩
  · cases does with
    | asks _ _ here =>
      have published : (m.publish i .attaching).operation? id = some (.ensure i .inLine) := here
      exact ⟨id, .opening, operation?_replaced _ published⟩

theorem Quietly.attended (done : Quietly m after) (sound : Sound m) (attended : Attended m) :
    Attended after := by
  obtain ⟨deeds, done, quiet⟩ := done
  induction done with
  | none m => exact attended
  | @next m middle after deed rest does _ induction =>
    have first := does.attended sound (fun id operation leaves => by
      have still := quiet deed List.mem_cons_self
      rw [leaves] at still
      cases still) attended
    exact induction (does.sound sound) first fun deed member =>
      quiet deed (List.mem_cons_of_mem _ member)

theorem Acts.attended (acts : Acts m deed? after) (sound : Sound m)
    (patient : ∀ id operation, deed? = some (.leaves id operation) →
      operation.isAttempting = false) (attended : Attended m) : Attended after := by
  cases acts with
  | quietly done => exact done.attended sound attended
  | once early does late =>
    have soundBefore := early.sound sound
    refine late.attended (does.sound soundBefore) ?_
    refine does.attended soundBefore (fun id operation same => ?_) (early.attended sound attended)
    exact patient id operation (congrArg some same)

theorem Runs.attended (run : Runs settings now m past) : Attended m := by
  induction run with
  | start =>
    intro i attaching
    have idle : (ofSettings settings).slot i = default := slot_outside (Nat.zero_le i)
    rw [idle] at attaching
    cases attaching
  | wait _ _ induction => exact induction
  | @move now m past move run allowed patient induction =>
    obtain ⟨deed?, effect, explained⟩ := move_effect now run.sound allowed
    refine effect.acts.attended run.sound (fun id operation leaves => ?_) induction
    rcases explained _ leaves with ordinary | ⟨_, _, gaveUp, _⟩ | ⟨_, _, _, _, closes⟩
    · simpa [Deed.isOrdinary] using ordinary
    · rw [gaveUp] at patient
      cases patient
    · cases closes

/-! ## Targets that are being reattached -/

/-- A slot whose session is being replaced has a reattachment. -/
def Pursued (m : Manager) : Prop :=
  ∀ i, (m.slot i).state = .reattaching →
    ∃ id stage, m.operation? id = some (.reattach i stage)

theorem Does.reattaching (does : Does m deed after)
    (reattaching : (after.slot i).state = .reattaching) :
    (m.slot i).state = .reattaching ∨ ∃ id handle, deed = .loses id i handle := by
  cases does with
  | loses j handle =>
    by_cases same : j = i
    · subst same
      exact .inr ⟨_, handle, rfl⟩
    · exact .inl (by grind)
  | _ => exact .inl (by grind)

theorem Deeds.reattaching {deeds : List Deed} (done : Deeds m deeds after)
    (quiet : ∀ deed ∈ deeds, deed.isQuiet = true)
    (reattaching : (after.slot i).state = .reattaching) : (m.slot i).state = .reattaching := by
  induction done with
  | none m => exact reattaching
  | @next _ middle after deed rest does _ induction =>
    have later := induction (fun deed member => quiet deed (List.mem_cons_of_mem _ member))
      reattaching
    rcases does.reattaching later with before | ⟨id, handle, rfl⟩
    · exact before
    · cases quiet _ List.mem_cons_self

theorem Acts.reattaching (acts : Acts m deed? after)
    (reattaching : (after.slot i).state = .reattaching) :
    (m.slot i).state = .reattaching ∨ ∃ id handle, deed? = some (.loses id i handle) := by
  cases acts with
  | quietly done =>
    obtain ⟨_, done, quiet⟩ := done
    exact .inl (done.reattaching quiet reattaching)
  | once early does late =>
    obtain ⟨_, first, quiet⟩ := early
    obtain ⟨_, last, quietToo⟩ := late
    rcases does.reattaching (last.reattaching quietToo reattaching) with before | ⟨id, handle, rfl⟩
    · exact .inl (first.reattaching quiet before)
    · exact .inr ⟨id, handle, rfl⟩

/-- A reattachment goes on until somebody has published another state. -/
def Persists (i : SlotId) (id : OperationId) (next : Manager × Wait) : Prop :=
  (next.1.slot i).state ≠ .reattaching ∨ ∃ stage, next.1.operation? id = some (.reattach i stage)

theorem tryTurn_persists (lost : (m.slot i).state = .reattaching)
    (here : m.operation? id = some (.reattach i .inLine)) :
    Persists i id (m.tryTurn now i id (.reattach i .inLine)) := by
  unfold tryTurn
  split
  · simp only [takeTurn, lost, if_true]
    exact .inr ⟨.backoff, operation?_replaced _ here⟩
  · exact .inr ⟨.inLine, here⟩

theorem advance_persists {attempt : Attempt} (input : Input) (inside : i < m.slots.length)
    (here : m.operation? id = some (.reattach i (.attempting attempt))) :
    Persists i id (m.advance now .reattach i id attempt input) := by
  have continues : ∀ later wait, Persists i id (m.attempting .reattach i id later wait) :=
    fun later _ => .inr ⟨.attempting later, operation?_replaced _ here⟩
  have ends : ∀ result, Persists i id (m.conclude .reattach i id result) := by
    refine fun result => .inl ?_
    rw [slot_conclude, if_pos ⟨rfl, inside⟩]
    cases result <;> exact nofun
  have succeeds : ∀ session, Persists i id (m.succeed .reattach i id session) :=
    fun session => .inl (by rw [slot_succeed, if_pos ⟨rfl, inside⟩]; exact nofun)
  have waits : ∀ wait, Persists i id (m, wait) := fun _ => .inr ⟨_, here⟩
  unfold advance
  split
  · exact continues _ _
  · exact ends _
  · exact waits _
  · split
    · exact succeeds _
    · exact ends _
    · exact continues _ _
    · split
      · exact succeeds _
      · exact continues _ _
  · exact waits _
  · exact continues _ _
  · exact ends _
  · exact waits _

theorem resume_persists (now : Nat) (sound : Sound m) {stage : Stage} (input : Input)
    (lost : (m.slot i).state = .reattaching) (here : m.operation? id = some (.reattach i stage)) :
    Persists i id (m.resume now id input) := by
  have inside : i < m.slots.length := sound.crew.placed id _ here
  unfold resume
  rw [here]
  cases stage with
  | fresh =>
    have lostToo : (((m.joinAttachLine i id).setOperation id (.reattach i .inLine)).slot i).state =
        .reattaching := by
      rw [slot_setOperation, slot_joinAttachLine, if_pos ⟨rfl, inside⟩]
      exact lost
    have lined : (m.joinAttachLine i id).operation? id = some (.reattach i .fresh) := here
    exact tryTurn_persists lostToo (operation?_replaced _ lined)
  | inLine => exact tryTurn_persists lost here
  | backoff => exact .inr ⟨.attempting .opening, operation?_replaced _ here⟩
  | attempting attempt => exact advance_persists input inside here
  | detaching => exact .inr ⟨.detaching, here⟩

/-- Those who do not move keep what they are at, leases apart. -/
theorem Affects.kept {move : Move} (affects : Affects m now move) (sound : Sound m)
    {operation : Operation} (here : m.operation? id = some operation)
    (other : ∀ i, operation ≠ .acquire i) (still : ∀ input, move ≠ .resume id input) :
    (m.move now move).1.operation? id = some operation := by
  cases affects with
  | nothing mover whose _ spares =>
    refine spares.kept id operation ?_ here
    rintro rfl
    rcases whose with free | ⟨input, same⟩
    · rw [free] at here
      cases here
    · exact still input same
  | queues target =>
    have fresh := ((slotOf_quietly m target).sound sound).crew.fresh
    have kept := (Spares.slotOf (m := m) m.nextOperation target).kept
    have free := sound.crew.fresh
    simp only [Manager.move, acquire_eq]
    grind
  | takes mover input i there =>
    simp only [Manager.move, resume, there]
    rw [operation?_takeLease]
    exact here
  | returns lease i there =>
    simp only [Manager.move, release, there]
    grind

theorem Runs.pursued (run : Runs settings now m past) : Pursued m := by
  induction run with
  | start =>
    intro i reattaching
    have idle : (ofSettings settings).slot i = default := slot_outside (Nat.zero_le i)
    rw [idle] at reattaching
    cases reattaching
  | wait _ _ induction => exact induction
  | @move now m past move run allowed patient induction =>
    intro i reattaching
    obtain ⟨deed?, effect, explained⟩ := move_effect now run.sound allowed
    rcases effect.acts.reattaching reattaching with before | ⟨id, handle, rfl⟩
    · obtain ⟨id, stage, here⟩ := induction i before
      by_cases resumed : ∃ input, move = .resume id input
      · obtain ⟨input, rfl⟩ := resumed
        rcases resume_persists now run.sound input before here with published | still
        · exact absurd reattaching published
        · exact ⟨id, still⟩
      · push Not at resumed
        have affects := move_affects now run.sound allowed patient
        exact ⟨id, stage, affects.kept run.sound here nofun resumed⟩
    · obtain ⟨_, loss⟩ := effect.acts.loss run.sound
      obtain ⟨j, stage, here, _⟩ := loss.begun
      rcases effect.acts.begun run.sound here with ⟨_, before⟩ | ⟨_, same⟩
      · rw [loss.free] at before
        cases before
      · cases same
        exact ⟨id, stage, here⟩

/-! ## The whole of it -/

/-- What holds of all that has been done, and of the manager that has come of it, as long as no
operation is given up. -/
structure Lifecycle (past : List Passage) (m : Manager) : Prop where
  /-- Every change of a published state is one of those that there are. -/
  changes : ∀ p ∈ past, ∀ target, Passes (p.before.stateOf target) (p.after.stateOf target)
  /-- A target begins to be reattached only while somebody holds its lease. -/
  leased : ∀ later p earlier target, past = later ++ p :: earlier →
    p.before.stateOf target ≠ .reattaching → p.after.stateOf target = .reattaching →
      ∃ lease, Leased earlier target lease
  /-- Exactly one reattachment comes of a loss, and none of anything else. -/
  begun : ∀ p ∈ past, ((∃ target, p.loses target = true) ↔ ∃ id, p.begins id = true) ∧
    ∀ id other, p.begins id = true → p.begins other = true → id = other
  /-- Behind a request of a reattachment there is an earlier loss of the same target. -/
  caused : ∀ later p earlier id target, past = later ++ p :: earlier →
    p.retry? = some (id, target) → ∃ q ∈ earlier, q.begins id = true ∧ q.loses target = true
  /-- No loss is behind two such requests. -/
  once : ∀ p ∈ past, past.countP p.causes ≤ 1
  /-- Of a target that is being attached, a call has the slot and attempts to attach. -/
  attaching : ∀ target, m.stateOf target = .attaching → ∃ i id attempt,
    m.find? target = some i ∧ m.operation? id = some (.ensure i (.attempting attempt)) ∧
      (m.slot i).attachLine.hasTurn id = true
  /-- Of a target that is being reattached, a reattachment has the slot or has yet to have it. -/
  reattaching : ∀ target, m.stateOf target = .reattaching → ∃ i id stage,
    m.find? target = some i ∧ m.operation? id = some (.reattach i stage) ∧
      (stage = .fresh ∨ stage = .inLine ∧ id ∈ (m.slot i).attachLine ∨
        (m.slot i).attachLine.hasTurn id = true)

/-- Whoever is at a reattachment has the slot or has yet to have it. -/
theorem reattachment_placed (sound : Sound m) {stage : Stage}
    (here : m.operation? id = some (.reattach i stage)) :
    stage = .fresh ∨ stage = .inLine ∧ id ∈ (m.slot i).attachLine ∨
      (m.slot i).attachLine.hasTurn id = true := by
  have first := sound.lines.first id _ here
  cases stage with
  | fresh => exact .inl rfl
  | inLine => exact .inr (.inl ⟨rfl, (sound.lines.lined i id).mpr ⟨_, here, rfl, rfl⟩⟩)
  | backoff | attempting | detaching => exact .inr (.inr (Line.hasTurn_iff.mpr (first rfl)))

/-- The state of a target that is not detached is that of its slot. -/
theorem slot_of_stateOf (sound : Sound m) (state : m.stateOf target ≠ .detached) :
    ∃ i, m.find? target = some i ∧ (m.slot i).state = m.stateOf target := by
  obtain ⟨i, known, rfl, same⟩ := known_of_stateOf sound state
  exact ⟨i, sound.homes.single.find? known, same⟩

/-- As long as nobody gives up, sessions live as they should. -/
theorem Runs.lifecycle (run : Runs settings now m past) : Lifecycle past m where
  changes p member target := by
    obtain ⟨_, early, allowed, _⟩ := run.of_mem member
    exact Passage.becomes early.sound allowed target
  leased later p earlier target whole before lost := by
    subst whole
    obtain ⟨early, allowed, patient⟩ := run.split
    exact early.lost_leased allowed patient before lost
  begun p member := by
    obtain ⟨_, early, allowed, _⟩ := run.of_mem member
    refine ⟨⟨fun ⟨target, loses⟩ => Passage.begins_of_loses early.sound allowed loses,
      fun ⟨id, begins⟩ => ?_⟩, fun id other begins begun => ?_⟩
    · obtain ⟨_, i, _, _, loses⟩ := Passage.begun early.sound allowed begins
      exact ⟨_, loses⟩
    · obtain ⟨only, _⟩ := Passage.begun early.sound allowed begins
      exact (only other begun).symm
  caused later p earlier id target whole retries := by
    subst whole
    obtain ⟨early, allowed, _⟩ := run.split
    exact early.caused allowed retries
  once p member := run.retried_once member
  attaching target state := by
    obtain ⟨i, found, same⟩ := slot_of_stateOf run.sound (by rw [state]; exact nofun)
    obtain ⟨id, attempt, here⟩ := run.attended i (same.trans state)
    exact ⟨i, id, attempt, found, here, Line.hasTurn_iff.mpr (run.sound.lines.first id _ here rfl)⟩
  reattaching target state := by
    obtain ⟨i, found, same⟩ := slot_of_stateOf run.sound (by rw [state]; exact nofun)
    obtain ⟨id, stage, here⟩ := run.pursued i (same.trans state)
    exact ⟨i, id, stage, found, here, reattachment_placed run.sound here⟩

/-- A session is lost under a script. The news of it and the script itself both call for a new one,
and it is asked for once. -/
theorem lifecycle_of_lost_session : ∃ m past, Runs {} 0 m past ∧ Lifecycle past m ∧
    m.stateOf "T1" = .reattaching ∧ past.countP (Passage.loses "T1") = 1 ∧
      past.filterMap Passage.retry? = [(2, "T1")] := by
  have wanted := (@Runs.start {}).move (.ensure "T1") trivial rfl
  have opened := wanted.move (.resume 0 (.attached (.ok "S1"))) ⟨_, rfl, rfl⟩ rfl
  have ready := opened.move (.resume 0 (.probed (.ok (.str "complete")))) ⟨_, rfl, rfl⟩ rfl
  have leased := ready.move (.acquire "T1") trivial rfl
  have lost := leased.move (.notice (.detached "T1" "S1" "closed")) trivial rfl
  have missed := lost.move (.recover ⟨"T1", "S1", true, 1⟩) trivial rfl
  have waits := missed.move (.resume 2 .turn) ⟨_, rfl, rfl⟩ rfl
  have again := waits.move (.resume 2 .turn) ⟨_, rfl, rfl⟩ rfl
  exact ⟨_, _, again, again.lifecycle, rfl, rfl, rfl⟩

end BrowserScript.Session

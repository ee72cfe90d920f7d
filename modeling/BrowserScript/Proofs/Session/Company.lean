import BrowserScript.Proofs.Run.Tenure
import BrowserScript.Proofs.Session.Lending
import BrowserScript.Proofs.Session.Recovery
import BrowserScript.Simulation.Task

/-!
# Runs that share a manager

Any number of runs over one manager take turns with each other, with others who attach, detach and
acquire leases, and with events, in any order. Between two waits a run is not interrupted. What a
run does leaves the leases and operations of all others alone. Main definitions: `Session.Company`,
`Company.Step`, `Company.Stands`. Main result: `Company.Performs.onward`.
-/

set_option autoImplicit false

namespace BrowserScript

open Session in
/-- The move with which a request begins an operation on a session. -/
def Run.Request.move? : Run.Request → Option Move
  | .attach target => some (.ensure target)
  | .detach target => some (.detach target)
  | .recover stale => some (.recover stale)
  | _ => none

namespace Session

open Manager
open Run (Request Serves)
open Simulation (ClientCall)
open Simulation.World (callFor)

def Wait.isOver : Wait → Bool
  | .over _ => true
  | _ => false

/-! ## Runs under way -/

/-- What a run is doing. -/
inductive Activity where
  | goes (rest : RunProgram RunResult)
  /-- An operation is under way for a request. -/
  | waits (id : OperationId) (request : Request) (next : request.Answer → RunProgram RunResult)
  /-- The run has been dropped. -/
  | gone

structure Performer where
  target : String
  /-- The lease that it has asked for, if it has done so. -/
  lease : Option OperationId
  activity : Activity

/-- A manager with the runs that have been begun. -/
structure Company where
  lending : Lending
  performers : List Performer

namespace Activity

/-- The request that is about to be made or under way. -/
def request? : Activity → Option Request
  | goes (.ask request _) => some request
  | waits _ request _ => some request
  | _ => none

/-- How the outcome of an operation answers the request it is for. -/
inductive Answers : (request : Request) → Outcome → request.Answer → Prop
  | acquired (target : String) (lease : OperationId) :
      Answers (.acquire target) (.acquired lease) ()
  | attached (target : String) (result : Except PageError SessionHandle) :
      Answers (.attach target) (.attached result) result
  | detached (target : String) (result : Except PageError Unit) :
      Answers (.detach target) (.detached result) result
  | recovered (stale : SessionHandle) (handle : Option SessionHandle) :
      Answers (.recover stale) (.recovered handle) handle

/-- What a run does next when it is told this of the operation for its request. -/
inductive Told (id : OperationId) (request : Request)
    (next : request.Answer → RunProgram RunResult) : Wait → Activity → Prop
  | ends {outcome : Outcome} {answer : request.Answer} (answers : Answers request outcome answer) :
      Told id request next (.over outcome) (.goes (next answer))
  | more {wait : Wait} (more : wait.isOver = false) :
      Told id request next wait (.waits id request next)

end Activity

/-- What is noted when one who has asked for a lease, or for none, is told this. -/
def telling (target : String) (lease? : Option OperationId) (wait : Wait) : List Deal :=
  granting target wait ++ ((callFor wait).map (.calls target lease?)).toList

/-- Nothing happens to the manager, and this is noted. -/
def Lending.note (s : Lending) (deals : List Deal) : Lending :=
  { s with ledger := s.ledger ++ deals }

namespace Company

open Activity

/-- What a run on a target does at once. Whatever it is doing, it may be dropped: then it gives up
its operation and gives back its lease. -/
inductive Performs (s : Lending) (target : String) :
    Option OperationId → Activity → Lending → Option OperationId → Activity → Prop
  | answered {lease? : Option OperationId} (request : Request)
      {next : request.Answer → RunProgram RunResult} (free : request.isFree = true)
      (answer : request.Answer) :
      Performs s target lease? (.goes (.ask request next)) s lease? (.goes (next answer))
  -- The call is made now. Nothing depends on when it is answered, or whether it is.
  | pages {lease? : Option OperationId} {session : String} {call : PageCall}
      {next : Except PageError Json → RunProgram RunResult} (answer : Except PageError Json) :
      Performs s target lease? (.goes (.ask (.page session call) next))
        (s.note [.calls target lease? (.page session call)]) lease? (.goes (next answer))
  | acquires {lease? : Option OperationId} {wanted : String} {next : Unit → RunProgram RunResult}
      {activity : Activity} (told : Told (s.manager.acquire wanted).2.1 (.acquire wanted) next
        (s.manager.acquire wanted).2.2 activity) :
      Performs s target lease? (.goes (.ask (.acquire wanted) next))
        (s.move (.acquire wanted) (.asks wanted (s.manager.acquire wanted).2.1 ::
          granting wanted (s.manager.acquire wanted).2.2))
        (some (s.manager.acquire wanted).2.1) activity
  | begins {lease? : Option OperationId} {request : Request}
      {next : request.Answer → RunProgram RunResult} {move : Move} {id : OperationId} {wait : Wait}
      {activity : Activity} (begins : request.move? = some move)
      (moves : (s.manager.move s.now move).2 = some (id, wait))
      (told : Told id request next wait activity) :
      Performs s target lease? (.goes (.ask request next))
        (s.move move (telling target lease? wait)) lease? activity
  | proceeds {lease? : Option OperationId} {id : OperationId} {request : Request}
      {next : request.Answer → RunProgram RunResult} (input : Input) {activity : Activity}
      (allowed : s.manager.Allows (.resume id input))
      (told : Told id request next (s.manager.resume s.now id input).2 activity) :
      Performs s target lease? (.waits id request next)
        (s.move (.resume id input) (telling target lease? (s.manager.resume s.now id input).2))
        lease? activity
  | releases {lease : OperationId} {freed : String} {next : Unit → RunProgram RunResult} :
      Performs s target (some lease) (.goes (.ask (.release freed) next))
        (s.move (.release lease) [.returns target lease]) (some lease) (.goes (next ()))
  | dropsFree {lease? : Option OperationId} {rest : RunProgram RunResult}
      (free : ∀ lease, lease? = some lease → ¬ s.ledger.Holds target lease) :
      Performs s target lease? (.goes rest) s lease? .gone
  | dropsHeld {lease : OperationId} {rest : RunProgram RunResult}
      (holds : s.ledger.Holds target lease) :
      Performs s target (some lease) (.goes rest)
        (s.move (.release lease) [.returns target lease]) (some lease) .gone
  | dropsWaiting {lease : OperationId} {request : Request}
      {next : request.Answer → RunProgram RunResult} :
      Performs s target (some lease) (.waits lease request next)
        (s.move (.abandon lease) [.returns target lease]) (some lease) .gone
  | dropsBusy {lease id : OperationId} {request : Request}
      {next : request.Answer → RunProgram RunResult} (other : id ≠ lease) :
      Performs s target (some lease) (.waits id request next)
        ((s.move (.abandon id) []).move (.release lease) [.returns target lease]) (some lease) .gone

/-- The operation is one of the run, or its lease. -/
def Owns (p : Performer) (id : OperationId) : Prop :=
  p.lease = some id ∨ ∃ request next, p.activity = .waits id request next

/-- Others do something, a run is begun, or one that has been begun does something. Others keep off
the operations and the leases of runs. -/
inductive Step (settings : Settings) (c : Company) : Company → Prop
  | others {id? : Option OperationId} {after : Lending} (turn : Lending.Turn c.lending id? after)
      (foreign : ∀ p ∈ c.performers, ∀ id, id? = some id → ¬ Owns p id) :
      Step settings c ⟨after, c.performers⟩
  | enters (program : Script) (overrides : Variables) (options : RunOptions) :
      Step settings c ⟨c.lending, c.performers ++
        [⟨options.target, none, .goes (Run.script settings program overrides options)⟩]⟩
  | performs (before later : List Performer) {p : Performer} {after : Lending}
      {lease? : Option OperationId} {activity : Activity}
      (here : c.performers = before ++ p :: later)
      (performs : Performs c.lending p.target p.lease p.activity after lease? activity) :
      Step settings c ⟨after, before ++ ⟨p.target, lease?, activity⟩ :: later⟩

/-- The states that a manager with runs can get into. -/
inductive Reaches (settings : Settings) : Company → Prop
  | start : Reaches settings ⟨.start settings, []⟩
  | step {c after : Company} (reaches : Reaches settings c) (step : Step settings c after) :
      Reaches settings after

end Company

/-! ## Numbers of operations -/

variable {m : Manager} {i : SlotId} {id : OperationId} {now : Nat}

theorem nextOperation_takeTurn (operation : Operation) :
    (m.takeTurn now i id operation).1.nextOperation = m.nextOperation := by
  cases operation with
  | ensure | reattach | detach =>
    simp only [takeTurn]
    split <;> simp [leaveAttachLine, openSession, attempting]
  | acquire | recover => rfl

theorem nextOperation_lineUp (operation : Operation) :
    (m.lineUp now i id operation).1.nextOperation = m.nextOperation := by
  unfold lineUp tryTurn
  split
  · simp [nextOperation_takeTurn]
  · rfl

/-- An operation that goes on has been numbered. -/
theorem begun_numbered (sound : Sound m) {request : Request} {move : Move} {wait : Wait}
    (begins : request.move? = some move)
    (told : (m.move now move).2 = some (id, wait)) (more : wait.isOver = false) :
    m.nextOperation ≤ id ∧ id < (m.move now move).1.nextOperation := by
  cases request with
  | attach target =>
    cases begins
    obtain ⟨_, done, _⟩ := slotOf_quietly m target
    have unattached : ((m.slotOf target).1.slot (m.slotOf target).2).state.handle? = none := by
      cases state : ((m.slotOf target).1.slot (m.slotOf target).2).state.handle? with
      | none => rfl
      | some handle =>
        simp only [Manager.move, ensure, state] at told
        cases told
        cases more
    simp only [Manager.move, ensure, unattached, nextOperation_lineUp] at told ⊢
    cases told
    exact ⟨done.nextOperation_le, Nat.lt_succ_self _⟩
  | detach target =>
    cases begins
    obtain ⟨_, done, _⟩ := slotOf_quietly m target
    cases told
    refine ⟨done.nextOperation_le, ?_⟩
    simp only [Manager.move, detach, nextOperation_lineUp]
    exact Nat.lt_succ_self _
  | recover stale =>
    cases begins
    obtain ⟨_, made, _⟩ := slotOf_quietly m stale.targetId
    obtain ⟨_, acts, _⟩ := restarted_acts (slotOf_known m stale.targetId).1 stale.sessionId
    obtain ⟨_, done⟩ := acts.deeds
    have same : (m.recover now stale).2 = (id, wait) := Option.some.inj told
    have number : (m.recover now stale).2.1 = (m.restarted stale).nextOperation := by
      rw [recover_eq]
      dsimp only
      split <;> rfl
    have numbered := (recover_seeks sound now stale).numbered
    rw [same] at number numbered
    exact ⟨Nat.le_trans (Nat.le_trans made.nextOperation_le done.nextOperation_le)
      (Nat.le_of_eq number.symm), numbered⟩
  | _ => cases begins

/-! ## What others do -/

variable {s after : Lending} {target : String} {lease : OperationId}
  {lease? mine id? : Option OperationId} {activity : Activity}

namespace Lending

/-- The operation is not about a lease. -/
def Other (s : Lending) (id : OperationId) : Prop :=
  id < s.manager.nextOperation ∧ ∀ target, .asks target id ∉ s.ledger

/-- Who has asked for this lease, or for none, is left alone. -/
structure LeavesAlone (s after : Lending) (mine : Option OperationId) : Prop where
  grows : s.manager.nextOperation ≤ after.manager.nextOperation
  news : ∃ news, after.ledger = s.ledger ++ news ∧
    (∀ target id, .asks target id ∈ news → s.manager.nextOperation ≤ id) ∧
    ∀ target lease, mine = some lease →
      .grants target lease ∉ news ∧ .returns target lease ∉ news

namespace LeavesAlone

theorem refl (s : Lending) (mine : Option OperationId) : LeavesAlone s s mine :=
  ⟨Nat.le_refl _, [], (List.append_nil _).symm, by simp, by simp⟩

theorem trans {middle : Lending} (early : LeavesAlone s middle mine)
    (late : LeavesAlone middle after mine) : LeavesAlone s after mine := by
  obtain ⟨grows, news, same, asks, quiet⟩ := early
  obtain ⟨growsToo, more, sameToo, asksToo, quietToo⟩ := late
  refine ⟨Nat.le_trans grows growsToo, news ++ more, ?_, fun target id member => ?_,
    fun target lease known => ?_⟩
  · rw [sameToo, same, List.append_assoc]
  · rcases List.mem_append.mp member with here | there
    · exact asks target id here
    · exact Nat.le_trans grows (asksToo target id there)
  · simp only [List.mem_append, not_or]
    exact ⟨⟨(quiet target lease known).1, (quietToo target lease known).1⟩,
      (quiet target lease known).2, (quietToo target lease known).2⟩

variable (alone : LeavesAlone s after mine)

include alone

theorem other (other : s.Other id) : after.Other id := by
  obtain ⟨grows, news, same, asks, _⟩ := alone
  refine ⟨Nat.lt_of_lt_of_le other.1 grows, fun target member => ?_⟩
  rw [same] at member
  rcases List.mem_append.mp member with old | new
  · exact other.2 target old
  · exact Nat.not_lt.mpr (asks target id new) other.1

theorem returned {deal : Deal} (member : deal ∈ s.ledger) : deal ∈ after.ledger := by
  obtain ⟨_, news, same, _⟩ := alone
  exact same ▸ List.mem_append_left news member

theorem holds (known : mine = some lease) (holds : s.ledger.Holds target lease) :
    after.ledger.Holds target lease := by
  obtain ⟨_, news, same, _, quiet⟩ := alone
  have silent := quiet target lease known
  rw [same]
  exact ⟨List.mem_append_left news holds.1, fun member =>
    (List.mem_append.mp member).elim holds.2 silent.2⟩

theorem awaits (known : mine = some lease) (awaits : s.ledger.Awaits target lease) :
    after.ledger.Awaits target lease := by
  obtain ⟨_, news, same, _, quiet⟩ := alone
  have silent := quiet target lease known
  rw [same]
  exact ⟨⟨List.mem_append_left news awaits.1.1, fun member =>
    (List.mem_append.mp member).elim awaits.1.2 silent.2⟩, fun member =>
    (List.mem_append.mp member).elim awaits.2 silent.1⟩

end LeavesAlone

/-- A turn that goes on with another operation. -/
theorem Turn.leavesAlone (turn : Turn s id? after) (fair : Fair s.manager s.ledger)
    (asked : ∀ lease, mine = some lease → ∃ target, .asks target lease ∈ s.ledger)
    (apart : ∀ lease, mine = some lease → id? ≠ some lease) : LeavesAlone s after mine := by
  obtain ⟨news, same, about⟩ := turn.news fair
  refine ⟨turn.nextOperation_le fair, news, same, fun target id member => about _ member,
    fun target lease known => ⟨fun member => ?_, fun member => apart lease known (about _ member)⟩⟩
  obtain ⟨home, asks⟩ := asked lease known
  rcases about _ member with free | same
  · exact Nat.not_lt.mpr free (fair.numbered home lease asks)
  · exact apart lease known same

/-- What is true when a run has done something. -/
structure Onward (target : String) (lease? : Option OperationId) (s after : Lending) : Prop where
  fair : Fair after.manager after.ledger
  alone : ∀ mine : Option OperationId,
    (∀ lease, mine = some lease → ∃ target, .asks target lease ∈ s.ledger) →
    (∀ lease, mine = some lease → lease? ≠ some lease) → LeavesAlone s after mine
  calls : ∀ other caller? call, .calls other caller? call ∈ after.ledger →
    .calls other caller? call ∈ s.ledger ∨ other = target ∧ caller? = lease?

/-- A run goes on with its lease or with another operation of its own. -/
theorem Turn.onward (turn : Turn s id? after) (fair : Fair s.manager s.ledger)
    (own : ∀ id, id? = some id → lease? = some id ∨ s.Other id) :
    Onward target lease? s after := by
  refine ⟨turn.fair fair, fun mine asked apart => ?_, fun other caller? call member => ?_⟩
  · refine turn.leavesAlone fair asked fun lease known same => ?_
    rcases own lease same with mine | other
    · exact apart lease known mine
    · obtain ⟨target, asks⟩ := asked lease known
      exact other.2 target asks
  · obtain ⟨news, same, about⟩ := turn.news fair
    rw [same] at member
    rcases List.mem_append.mp member with old | new
    · exact .inl old
    · exact (about _ new).elim

theorem Onward.trans {middle : Lending} (early : Onward target lease? s middle)
    (late : Onward target lease? middle after) : Onward target lease? s after where
  fair := late.fair
  alone mine asked apart := by
    have first := early.alone mine asked apart
    refine first.trans (late.alone mine (fun lease known => ?_) apart)
    obtain ⟨home, asks⟩ := asked lease known
    exact ⟨home, first.returned asks⟩
  calls other caller? call member := by
    rcases late.calls other caller? call member with old | own
    · exact early.calls other caller? call old
    · exact .inr own

/-- Who has asked for no lease is left alone. -/
theorem Onward.unasked (onward : Onward target lease? s after) : LeavesAlone s after none :=
  onward.alone none (fun _ known => by cases known) fun _ known => by cases known

theorem Onward.refl (fair : Fair s.manager s.ledger) : Onward target lease? s s :=
  ⟨fair, fun mine _ _ => .refl s mine, fun _ _ _ => .inl⟩

theorem note_nil : s.note [] = s := by
  rw [note, List.append_nil]

theorem ledger_aside {move : Move} : (s.move move []).ledger = s.ledger := List.append_nil _

theorem note_move {move : Move} (deals : List Deal) :
    (s.move move []).note deals = s.move move deals := by
  rw [note, ledger_aside]
  rfl

/-- A run makes a call under its lease, or none. -/
theorem Onward.noted (fair : Fair s.manager s.ledger) (holds : s.ledger.Holds target lease)
    (call? : Option ClientCall) :
    Onward target (some lease) s (s.note (call?.map (.calls target (some lease))).toList) ∧
      (s.note (call?.map (.calls target (some lease))).toList).ledger.Holds target lease := by
  cases call? with
  | none => exact note_nil.symm ▸ ⟨.refl fair, holds⟩
  | some call =>
    refine ⟨⟨fair.calls holds call, fun mine _ _ => ?_, fun other caller? made member => ?_⟩, ?_⟩
    · exact ⟨Nat.le_refl _, _, rfl, by simp, by simp⟩
    · rcases List.mem_append.mp member with old | new
      · exact .inl old
      · cases List.mem_singleton.mp new
        exact .inr ⟨rfl, rfl⟩
    · simpa [note, Ledger.Holds] using holds

end Lending

/-! ## Where a run stands -/

namespace Company

open Activity Lending

/-- What holds of a run on a target that has got this far. -/
inductive Stands (s : Lending) (target : String) : Option OperationId → Activity → Prop
  | before {rest : RunProgram RunResult} (serves : Serves target .before rest) :
      Stands s target none (.goes rest)
  | queued {lease : OperationId} {next : Unit → RunProgram RunResult}
      (awaits : s.ledger.Awaits target lease) (serves : Serves target .within (next ())) :
      Stands s target (some lease) (.waits lease (.acquire target) next)
  | within {lease : OperationId} {rest : RunProgram RunResult}
      (holds : s.ledger.Holds target lease) (serves : Serves target .within rest) :
      Stands s target (some lease) (.goes rest)
  | busy {lease id : OperationId} {request : Request}
      {next : request.Answer → RunProgram RunResult} (holds : s.ledger.Holds target lease)
      (other : s.Other id) (begun : request.move?.isSome = true)
      (held : request.isHeld target = true)
      (serves : ∀ answer, Serves target .within (next answer)) :
      Stands s target (some lease) (.waits id request next)
  | after {lease : OperationId} {rest : RunProgram RunResult}
      (returned : .returns target lease ∈ s.ledger) (serves : Serves target .after rest) :
      Stands s target (some lease) (.goes rest)
  | gone {lease? : Option OperationId}
      (returned : ∀ lease, lease? = some lease → .returns target lease ∈ s.ledger) :
      Stands s target lease? .gone

namespace Stands

theorem returned {move : Move} :
    Stands (s.move move [.returns target lease]) target (some lease) .gone :=
  .gone fun _ known => Option.some.inj known ▸ List.mem_append_right _ (List.mem_singleton_self _)

theorem asked (stands : Stands s target lease? activity) (fair : Fair s.manager s.ledger)
    (known : lease? = some lease) : .asks target lease ∈ s.ledger := by
  cases stands with
  | before => cases known
  | queued awaits =>
    cases known
    exact awaits.1.1
  | within holds | busy holds =>
    cases known
    exact (fair.ordered.wants holds).1
  | after returned =>
    cases known
    exact fair.ordered.asked target lease (.inr returned)
  | gone returned => exact fair.ordered.asked target lease (.inr (returned lease known))

/-- A run stays where it is while others do something. -/
theorem leavesAlone (stands : Stands s target lease? activity)
    (alone : LeavesAlone s after lease?) : Stands after target lease? activity := by
  cases stands with
  | before serves => exact .before serves
  | queued awaits serves => exact .queued (alone.awaits rfl awaits) serves
  | within holds serves => exact .within (alone.holds rfl holds) serves
  | busy holds other begun held serves =>
    exact .busy (alone.holds rfl holds) (alone.other other) begun held serves
  | after returned serves => exact .after (alone.returned returned) serves
  | gone returned => exact .gone fun lease known => alone.returned (returned lease known)

/-- A run that is about to turn to the page or to sessions has its lease. -/
theorem of_bound {request : Request} {next : request.Answer → RunProgram RunResult}
    (stands : Stands s target lease? (.goes (.ask request next)))
    (bound : request.isBound = true) :
    ∃ lease, lease? = some lease ∧ s.ledger.Holds target lease ∧ request.isHeld target = true ∧
      ∀ answer, Serves target .within (next answer) := by
  cases stands with
  | before serves => exact absurd (serves.of_bound bound).1 nofun
  | after _ serves => exact absurd (serves.of_bound bound).1 nofun
  | within holds serves =>
    obtain ⟨_, held, rest⟩ := serves.of_bound bound
    exact ⟨_, rfl, holds, held, rest⟩

/-- Only a run that has its lease turns to the page or to sessions. -/
theorem covered (stands : Stands s target lease? activity) {request : Request}
    (asks : activity.request? = some request) (bound : request.isBound = true) :
    request.isHeld target = true ∧ ∃ lease, lease? = some lease ∧ s.ledger.Holds target lease := by
  cases activity with
  | gone => cases asks
  | goes rest =>
    cases rest with
    | done => cases asks
    | ask request next =>
      cases asks
      obtain ⟨lease, known, holds, held, _⟩ := stands.of_bound bound
      exact ⟨held, lease, known, holds⟩
  | waits id request next =>
    cases asks
    cases stands with
    | queued => cases bound
    | busy holds _ _ held => exact ⟨held, _, rfl, holds⟩

end Stands

/-! ## What a run does -/

variable {given? : Option OperationId} {request : Request}
  {next : request.Answer → RunProgram RunResult} {id : OperationId} {move : Move} {wait : Wait}

theorem bound_of_begun (begun : request.move?.isSome = true) : request.isBound = true := by
  cases request <;> first | rfl | cases begun

theorem begun_aside {m : Manager} (begins : request.move? = some move) :
    m.Allows move ∧ m.Aside move ∧ move.subject? = none := by
  cases request with
  | attach | detach | recover =>
    cases begins
    exact ⟨trivial, trivial, rfl⟩
  | _ => cases begins

/-- Who waits for a lease waits for its turn. -/
theorem allowed_turn {m : Manager} {i : SlotId} {input : Input}
    (here : m.operation? lease = some (.acquire i)) (allowed : m.Allows (.resume lease input)) :
    input = .turn := by
  obtain ⟨operation, known, expects⟩ := allowed
  cases here.symm.trans known
  cases input with
  | turn => rfl
  | _ => cases expects

theorem other_aside (fair : Fair s.manager s.ledger) (other : s.Other id) (i : SlotId) :
    s.manager.operation? id ≠ some (.acquire i) := fun here =>
  other.2 _ ((fair.lined _ id).mpr ⟨i, here, rfl⟩).1

/-- Nothing is granted to a run for another operation than that for its lease. -/
theorem telling_begun (told : Told id request next wait activity)
    (begun : request.move?.isSome = true) :
    telling target lease? wait = ((callFor wait).map (.calls target lease?)).toList := by
  have silent : granting target wait = [] := by
    cases told with
    | ends answers =>
      cases answers with
      | acquired => cases begun
      | attached | detached | recovered => rfl
    | more more =>
      cases wait <;> first | rfl | cases more
  rw [telling, silent, List.nil_append]

/-- A run goes on with an operation under its lease. -/
theorem goesOn (fair : Fair s.manager s.ledger) (holds : s.ledger.Holds target lease)
    (begun : request.move?.isSome = true) (held : request.isHeld target = true)
    (serves : ∀ answer, Serves target .within (next answer))
    (turn : Turn s id? (s.move move [])) (own : ∀ id, id? = some id → s.Other id)
    (told : Told id request next wait activity)
    (other : wait.isOver = false → (s.move move []).Other id) :
    Onward target (some lease) s (s.move move (telling target (some lease) wait)) ∧
      Stands (s.move move (telling target (some lease) wait)) target (some lease) activity := by
  have moved : Onward target (some lease) s (s.move move []) :=
    turn.onward fair fun id known => .inr (own id known)
  have still : (s.move move []).ledger.Holds target lease := ledger_aside.symm ▸ holds
  obtain ⟨noted, kept⟩ := Onward.noted moved.fair still (callFor wait)
  rw [telling_begun told begun, ← note_move]
  refine ⟨moved.trans noted, ?_⟩
  cases told with
  | ends => exact .within kept (serves _)
  | more more =>
    exact .busy kept (noted.unasked.other (other more)) begun held serves

/-- A run is told of the lease it has asked for. -/
theorem stands_told {next : Unit → RunProgram RunResult} {ledger : Ledger}
    (awaits : ledger.Awaits target lease) (serves : Serves target .within (next ()))
    (cases : wait = .turn ∨ wait = .over (.acquired lease))
    (told : Told lease (.acquire target) next wait activity)
    (same : after.ledger = ledger ++ granting target wait) :
    Stands after target (some lease) activity := by
  rcases cases with rfl | rfl
  · cases told with
    | more =>
      refine .queued ?_ serves
      rw [same]
      exact (List.append_nil ledger).symm ▸ awaits
  · cases told with
    | ends answers => exact .within (same ▸ awaits.granted) serves
    | more more => cases more

theorem telling_lease (cases : wait = .turn ∨ wait = .over (.acquired lease)) :
    telling target lease? wait = granting target wait := by
  rcases cases with rfl | rfl <;> rfl

/-- What a run does leaves others alone, and the run keeps its lease, if it does not get one. -/
theorem Performs.onward {later : Activity}
    (performs : Performs s target lease? activity after given? later)
    (fair : Fair s.manager s.ledger) (stands : Stands s target lease? activity) :
    Onward target given? s after ∧ Stands after target given? later ∧
      (given? = lease? ∨
        lease? = none ∧ ∃ lease, given? = some lease ∧ s.manager.nextOperation ≤ lease) := by
  cases performs with
  | answered request free answer =>
    refine ⟨.refl fair, ?_, .inl rfl⟩
    cases stands with
    | before serves => exact .before (serves.of_free free answer)
    | within holds serves => exact .within holds (serves.of_free free answer)
    | after returned serves => exact .after returned (serves.of_free free answer)
  | @pages _ session call _ answer =>
    obtain ⟨lease, rfl, holds, _, rest⟩ := stands.of_bound rfl
    obtain ⟨noted, kept⟩ := Onward.noted fair holds (some (.page session call))
    exact ⟨noted, .within kept (rest answer), .inl rfl⟩
  | acquires told =>
    cases stands with
    | after _ serves => exact absurd serves.of_acquire.1 nofun
    | within _ serves => exact absurd serves.of_acquire.1 nofun
    | before serves =>
      obtain ⟨_, rfl, rest⟩ := serves.of_acquire
      obtain ⟨free, awaits, either⟩ := fair.acquire _
      refine ⟨(Turn.asks _).onward fair nofun, ?_, .inr ⟨rfl, _, rfl, free⟩⟩
      exact stands_told awaits rest either told (List.append_cons _ _ _)
  | begins begins moves told =>
    have begun := Option.isSome_of_eq_some begins
    obtain ⟨lease, rfl, holds, held, rest⟩ := stands.of_bound (bound_of_begun begun)
    obtain ⟨allowed, aside, new⟩ := begun_aside (m := s.manager) begins
    have turn := Turn.aside _ allowed aside
    rw [new] at turn
    obtain ⟨onward, stands⟩ := goesOn fair holds begun held rest turn nofun told fun more => by
      obtain ⟨free, numbered⟩ := begun_numbered fair.sound begins moves more
      refine ⟨numbered, fun target member => ?_⟩
      rw [ledger_aside] at member
      exact Nat.not_lt.mpr free (fair.numbered target _ member)
    exact ⟨onward, stands, .inl rfl⟩
  | @proceeds _ id _ _ input _ allowed told =>
    cases stands with
    | queued awaits serves =>
      obtain ⟨i, here, _⟩ := (fair.lined _ _).mp awaits.1
      obtain rfl := allowed_turn here allowed
      have turn := Turn.takes _ _ awaits
      have either := fair.resume s.now awaits .turn
      rw [telling_lease either]
      exact ⟨turn.onward fair fun _ same => .inl same,
        stands_told awaits serves either told rfl, .inl rfl⟩
    | busy holds other begun held serves =>
      have turn := Turn.aside (.resume id input) allowed (other_aside fair other)
      have moved : Onward target none s (s.move (.resume id input) []) :=
        turn.onward fair fun _ same => .inr (Option.some.inj same ▸ other)
      obtain ⟨onward, stands⟩ := goesOn fair holds begun held serves turn
        (fun _ same => Option.some.inj same ▸ other) told fun _ => moved.unasked.other other
      exact ⟨onward, stands, .inl rfl⟩
  | releases =>
    cases stands with
    | after _ serves => exact absurd serves.of_release.1 nofun
    | within holds serves =>
      obtain ⟨_, rfl, rest⟩ := serves.of_release
      have turn := Turn.returns _ _ holds
      exact ⟨turn.onward fair fun _ same => .inl same,
        .after (List.mem_append_right _ (List.mem_singleton_self _)) rest, .inl rfl⟩
  | dropsFree free =>
    refine ⟨.refl fair, ?_, .inl rfl⟩
    cases stands with
    | before => exact .gone nofun
    | within holds => exact absurd holds (free _ rfl)
    | after returned => exact .gone fun _ known => Option.some.inj known ▸ returned
  | dropsHeld holds =>
    have turn := Turn.returns _ _ holds
    exact ⟨turn.onward fair fun _ same => .inl same, .returned, .inl rfl⟩
  | dropsWaiting =>
    cases stands with
    | busy holds other =>
      exact absurd (fair.ordered.wants holds).1 (other.2 target)
    | queued awaits =>
      have turn := Turn.leaves _ _ awaits
      exact ⟨turn.onward fair fun _ same => .inl same, .returned, .inl rfl⟩
  | @dropsBusy lease id _ _ different =>
    cases stands with
    | queued => exact absurd rfl different
    | busy holds other =>
      have turn := Turn.aside (.abandon id) trivial (other_aside fair other)
      have ended : Onward target (some lease) s (s.move (.abandon id) []) :=
        turn.onward fair fun _ same => .inr (Option.some.inj same ▸ other)
      have still : (s.move (.abandon id) []).ledger.Holds target lease := ledger_aside.symm ▸ holds
      have returns := Turn.returns _ _ still
      exact ⟨ended.trans (returns.onward ended.fair fun _ same => .inl same),
        .returned, .inl rfl⟩

end Company

end Session

end BrowserScript

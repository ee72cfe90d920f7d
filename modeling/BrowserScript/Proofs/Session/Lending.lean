import BrowserScript.Proofs.Session.Ledger
import BrowserScript.Proofs.Session.Reattachment

/-!
# Leases in order

A manager whose operations may also be given up, with a ledger of what happens about its leases.
Whoever holds the lease of a target is first in the line of the slot of the target, and a script
runs there as long as somebody holds it. Main definitions: `Session.Lending`, `Lending.Turn`,
`Session.Fair`. Main results: `Lending.Turn.fair`, `Fair.running_iff`, `Fair.registered`.
-/

set_option autoImplicit false

namespace BrowserScript.Session

open Manager
open Simulation (ClientCall)

/-- A manager with what has happened about its leases. -/
structure Lending where
  now : Nat
  manager : Manager
  ledger : Ledger

/-- The move is not about a lease. -/
def Manager.Aside (m : Manager) : Move → Prop
  | .acquire _ => False
  | .resume id _ | .release id | .abandon id => ∀ i, m.operation? id ≠ some (.acquire i)
  | _ => True

/-- The operation that a move goes on with or ends. -/
def Move.subject? : Move → Option OperationId
  | resume id _ | release id | abandon id => some id
  | _ => none

/-- The lease is granted to one who is told this. -/
def granting (target : String) : Wait → List Deal
  | .over (.acquired lease) => [.grants target lease]
  | _ => []

namespace Lending

def start (settings : Settings) : Lending := ⟨0, ofSettings settings, []⟩

/-- The manager makes a move, and this is noted of it. -/
def move (s : Lending) (move : Move) (deals : List Deal) : Lending :=
  { s with manager := (s.manager.move s.now move).1, ledger := s.ledger ++ deals }

/-- What happens at once, and the operation that it goes on with or ends, if there is one. A lease
that has been granted is given back once, and its operation does not go on. -/
inductive Turn (s : Lending) : Option OperationId → Lending → Prop
  | wait (time : Nat) : Turn s none { s with now := s.now + time }
  | aside (move : Move) (allowed : s.manager.Allows move) (aside : s.manager.Aside move) :
      Turn s move.subject? (s.move move [])
  | asks (target : String) :
      Turn s none (s.move (.acquire target) (.asks target (s.manager.acquire target).2.1 ::
        granting target (s.manager.acquire target).2.2))
  | takes (target : String) (lease : OperationId) (awaits : s.ledger.Awaits target lease) :
      Turn s (some lease) (s.move (.resume lease .turn)
        (granting target (s.manager.resume s.now lease .turn).2))
  | returns (target : String) (lease : OperationId) (holds : s.ledger.Holds target lease) :
      Turn s (some lease) (s.move (.release lease) [.returns target lease])
  | leaves (target : String) (lease : OperationId) (awaits : s.ledger.Awaits target lease) :
      Turn s (some lease) (s.move (.abandon lease) [.returns target lease])

end Lending

/-! ## What holds between two turns -/

/-- The lines of scripts go together with what has happened. -/
structure Fair (m : Manager) (ledger : Ledger) : Prop where
  sound : Sound m
  ordered : ledger.Ordered
  lined : ∀ target lease, ledger.Wants target lease ↔
    ∃ i, m.operation? lease = some (.acquire i) ∧ (m.slot i).target = target
  numbered : ∀ target lease, .asks target lease ∈ ledger → lease < m.nextOperation
  arrival : ∀ i, (m.slot i).scriptLine.Pairwise (· < ·)
  first : ∀ target lease, ledger.Holds target lease →
    ∃ i, m.First i lease ∧ (m.slot i).running = true
  running : ∀ i, (m.slot i).running = true →
    ∃ lease, m.First i lease ∧ .grants (m.slot i).target lease ∈ ledger

namespace Fair

variable {settings : Settings} {m after : Manager} {ledger : Ledger} {target : String}
  {i j : SlotId} {id lease other : OperationId} {now : Nat}

theorem start : Fair (ofSettings settings) [] where
  sound := sound_ofSettings settings
  ordered := .nil
  lined target lease := by
    constructor
    · rintro ⟨asks, _⟩
      cases asks
    · rintro ⟨_, here, _⟩
      cases here
  numbered _ _ member := by cases member
  arrival i := by
    rw [slot_outside (Nat.zero_le i)]
    exact .nil
  first _ _ holds := by cases holds.1
  running i running := by
    rw [slot_outside (Nat.zero_le i)] at running
    cases running

/-- Who wants a lease stands in the line of the slot of the target. -/
theorem place (fair : Fair m ledger) (wants : ledger.Wants target lease) :
    ∃ i, m.operation? lease = some (.acquire i) ∧ m.find? target = some i ∧
      (m.slot i).target = target ∧ lease ∈ (m.slot i).scriptLine := by
  obtain ⟨i, here, rfl⟩ := (fair.lined target lease).mp wants
  have known := fair.sound.homes.kept lease _ here rfl
  exact ⟨i, here, fair.sound.homes.single.find? known, rfl,
    (fair.sound.scripts.queued i lease).mpr here⟩

/-- Who is first has asked before all others. -/
theorem first_le (fair : Fair m ledger) (first : m.First i lease)
    (member : other ∈ (m.slot i).scriptLine) : lease ≤ other := by
  obtain ⟨rest, line⟩ := List.head?_eq_some_iff.mp first.2
  have ascending := fair.arrival i
  rw [line] at ascending member
  rcases List.mem_cons.mp member with rfl | later
  · exact Nat.le_refl _
  · exact Nat.le_of_lt (List.rel_of_pairwise_cons ascending later)

/-- Who has asked before the first in line has given the lease up. -/
theorem returned (fair : Fair m ledger) (first : m.First i lease)
    (asks : .asks (m.slot i).target other ∈ ledger) (less : other < lease) :
    .returns (m.slot i).target other ∈ ledger := by
  by_contra wanted
  obtain ⟨j, _, found, _, member⟩ := fair.place ⟨asks, wanted⟩
  have known := fair.sound.homes.kept lease _ first.1 rfl
  cases found.symm.trans (fair.sound.homes.single.find? known)
  exact Nat.not_lt.mpr (fair.first_le first member) less

/-- A script runs on a slot as long as somebody holds the lease of the slot. -/
theorem running_iff (fair : Fair m ledger) : (m.slot i).running = true ↔
    ∃ lease, ledger.Holds (m.slot i).target lease ∧ m.operation? lease = some (.acquire i) := by
  constructor
  · intro running
    obtain ⟨lease, first, grants⟩ := fair.running i running
    have wants := (fair.lined _ lease).mpr ⟨i, first.1, rfl⟩
    exact ⟨lease, ⟨grants, wants.2⟩, first.1⟩
  · rintro ⟨lease, holds, here⟩
    obtain ⟨j, first, running⟩ := fair.first _ lease holds
    cases here.symm.trans first.1
    exact running

/-- A lease that is held or waited for is one of the slot that is found for its target. -/
theorem registered (fair : Fair m ledger)
    (wanted : ledger.Holds target lease ∨ ledger.Awaits target lease) :
    ∃ i, m.find? target = some i ∧ m.operation? lease = some (.acquire i) := by
  have wants : ledger.Wants target lease := wanted.elim fair.ordered.wants And.left
  obtain ⟨i, here, found, _⟩ := fair.place wants
  exact ⟨i, found, here⟩

/-- Who asks for a lease waits for it at first. -/
theorem awaits_asked (fair : Fair m ledger) (target : String) :
    Ledger.Awaits (ledger ++ [.asks target m.nextOperation]) target m.nextOperation := by
  have unasked : .asks target m.nextOperation ∉ ledger := fun member =>
    Nat.lt_irrefl _ (fair.numbered target _ member)
  refine ⟨⟨List.mem_append_right _ (List.mem_singleton_self _), ?_⟩, ?_⟩
  · intro member
    exact unasked (fair.ordered.asked target _ (.inr (by simpa using member)))
  · intro member
    exact unasked (fair.ordered.asked target _ (.inl (by simpa using member)))

/-! ## Moves that are not about leases -/

/-- The lines of scripts stay as they are. -/
theorem spared (fair : Fair m ledger) {deeds : List Deed} (done : Deeds m deeds after)
    (spares : Spares m id after) (aside : ∀ i, m.operation? id ≠ some (.acquire i)) :
    Fair after ledger := by
  have same : ∀ lease i, after.operation? lease = some (.acquire i) ↔
      m.operation? lease = some (.acquire i) := by
    refine fun lease i => ⟨spares.leases lease i, fun here => spares.kept lease _ ?_ here⟩
    rintro rfl
    exact aside i here
  have home : ∀ lease i, m.operation? lease = some (.acquire i) →
      (after.slot i).target = (m.slot i).target := fun lease i here =>
    (done.keepsSlots fair.sound (fair.sound.crew.placed lease _ here)).2.1
  have first : ∀ i lease, after.First i lease ↔ m.First i lease := fun i lease => by
    unfold First
    rw [same, (spares.scripts i).2]
  constructor
  case sound => exact done.sound fair.sound
  case ordered => exact fair.ordered
  case lined =>
    refine fun target lease => (fair.lined target lease).trans (exists_congr fun i => ?_)
    rw [same]
    exact and_congr_right fun here => by rw [home lease i here]
  case numbered =>
    exact fun target lease member =>
      Nat.lt_of_lt_of_le (fair.numbered target lease member) done.nextOperation_le
  case arrival => exact fun i => (spares.scripts i).2 ▸ fair.arrival i
  case first =>
    intro target lease holds
    obtain ⟨i, front, running⟩ := fair.first target lease holds
    exact ⟨i, (first i lease).mpr front, (spares.scripts i).1 ▸ running⟩
  case running =>
    intro i running
    obtain ⟨lease, front, grants⟩ := fair.running i ((spares.scripts i).1 ▸ running)
    exact ⟨lease, (first i lease).mpr front, home lease i front.1 ▸ grants⟩

/-- The slot of a target is made when there is none. -/
theorem makes (fair : Fair m ledger) (target : String) : Fair (m.slotOf target).1 ledger := by
  obtain ⟨_, done, _⟩ := slotOf_quietly m target
  refine fair.spared done (Spares.slotOf m.nextOperation target) fun _ => ?_
  rw [fair.sound.crew.fresh]
  exact nofun

/-! ## Moves that are about leases -/

/-- Somebody lines up for the lease of a target. -/
theorem asks (fair : Fair m ledger) (known : (m.slot i).known = true) :
    Fair (m.queued i) (ledger ++ [.asks (m.slot i).target m.nextOperation]) := by
  have fresh := fair.sound.crew.fresh
  have inside := inside_of_known known
  have unasked : ∀ target, .asks target m.nextOperation ∉ ledger := fun target member =>
    Nat.lt_irrefl _ (fair.numbered target _ member)
  have unreturned : ∀ target, .returns target m.nextOperation ∉ ledger := fun target member =>
    unasked target (fair.ordered.asked target _ (.inr member))
  have does : Does m (.queues m.nextOperation i) (m.queued i) := .queues i known
  have home : ∀ j, ((m.queued i).slot j).target = (m.slot j).target := fun j => by grind
  have running : ∀ j, ((m.queued i).slot j).running = (m.slot j).running := fun j => by grind
  have first : ∀ j lease, m.First j lease → (m.queued i).First j lease := by
    rintro j lease ⟨here, front⟩
    have joined : ((m.slot j).scriptLine.join m.nextOperation).head? = some lease :=
      Line.head?_join front
    constructor <;> grind
  constructor
  case sound => exact does.sound fair.sound
  case ordered => exact fair.ordered.after_asks fair.numbered
  case lined =>
    intro target lease
    have old := fair.lined target lease
    simp only [Ledger.Wants, List.mem_append, List.mem_singleton, reduceCtorEq, or_false,
      Deal.asks.injEq, operation?_queued fresh, home] at old ⊢
    by_cases same : lease = m.nextOperation
    · subst same
      simp [unasked, unreturned, eq_comm]
    · simpa [same] using old
  case numbered =>
    intro target lease member
    rw [List.mem_append, List.mem_singleton, Deal.asks.injEq] at member
    rcases member with old | ⟨_, rfl⟩
    · exact Nat.lt_succ_of_lt (fair.numbered target lease old)
    · exact Nat.lt_succ_self _
  case arrival =>
    intro j
    have line := fair.arrival j
    rw [slot_queued]
    split
    · refine List.pairwise_append.mpr ⟨line, List.pairwise_singleton _ _, ?_⟩
      intro lease member last same
      have here := (fair.sound.scripts.queued j lease).mp member
      exact List.mem_singleton.mp same ▸ fair.sound.crew.numbered lease _ here
    · exact line
  case first =>
    rintro target lease ⟨grants, kept⟩
    obtain ⟨j, front, runs⟩ := fair.first target lease ⟨by simpa using grants, by simpa using kept⟩
    exact ⟨j, first j lease front, running j ▸ runs⟩
  case running =>
    intro j runs
    obtain ⟨lease, front, grants⟩ := fair.running j (running j ▸ runs)
    exact ⟨lease, first j lease front, home j ▸ List.mem_append_left _ grants⟩

/-- Who waits for the lease takes it when it has become the first in line. -/
theorem takes (fair : Fair m ledger) (awaits : ledger.Awaits target lease)
    (here : m.operation? lease = some (.acquire i)) (home : (m.slot i).target = target) :
    Fair (m.takeLease i lease).1 (ledger ++ granting target (m.takeLease i lease).2) := by
  subst home
  by_cases turn : (m.slot i).scriptLine.hasTurn lease = true
  swap
  · unfold takeLease
    rw [if_neg turn]
    exact (List.append_nil ledger).symm ▸ fair
  have first : m.First i lease := ⟨here, Line.hasTurn_iff.mp turn⟩
  have inside : i < m.slots.length := fair.sound.crew.placed lease _ here
  have does : Does m (.takesLease lease i) (m.takeLease i lease).1 := by
    unfold takeLease
    rw [if_pos turn]
    exact .takesLease lease i here turn
  have same : ∀ j, ((m.takeLease i lease).1.slot j).target = (m.slot j).target ∧
      ((m.takeLease i lease).1.slot j).scriptLine = (m.slot j).scriptLine := fun j => by grind
  have runs : ∀ j, ((m.takeLease i lease).1.slot j).running = true ↔
      (m.slot j).running = true ∨ j = i := fun j => by grind
  have still : ∀ j other, (m.takeLease i lease).1.First j other ↔ m.First j other := by
    intro j other
    unfold First
    rw [operation?_takeLease, (same j).2]
  rw [told_takeLease turn]
  constructor
  case sound => exact does.sound fair.sound
  case ordered => exact fair.ordered.after_grants awaits fun earlier => fair.returned first
  case lined =>
    intro target other
    simpa [granting, Ledger.Wants, operation?_takeLease, same] using fair.lined target other
  case numbered =>
    intro target other member
    exact Nat.lt_of_lt_of_le (fair.numbered target other (by simpa [granting] using member))
      does.nextOperation_le
  case arrival => exact fun j => (same j).2 ▸ fair.arrival j
  case first =>
    rintro target other ⟨grants, kept⟩
    simp only [granting, List.mem_append, List.mem_singleton, Deal.grants.injEq, reduceCtorEq,
      or_false] at grants kept
    rcases grants with old | ⟨_, rfl⟩
    · obtain ⟨j, front, running⟩ := fair.first target other ⟨old, kept⟩
      exact ⟨j, (still j other).mpr front, (runs j).mpr (.inl running)⟩
    · exact ⟨i, (still i _).mpr first, (runs i).mpr (.inr rfl)⟩
  case running =>
    intro j running
    rw [(same j).1]
    rcases (runs j).mp running with before | rfl
    · obtain ⟨other, front, grants⟩ := fair.running j before
      exact ⟨other, (still j other).mpr front, List.mem_append_left _ grants⟩
    · exact ⟨lease, (still j lease).mpr first, List.mem_append_right _ (List.mem_singleton_self _)⟩

/-- Who wants the lease no longer leaves the line. -/
theorem leaves (fair : Fair m ledger) (here : m.operation? lease = some (.acquire i)) :
    Fair (m.leaveScripts i lease) (ledger ++ [.returns (m.slot i).target lease]) := by
  have inside : i < m.slots.length := fair.sound.crew.placed lease _ here
  have does : Does m (.leavesScripts lease i) (m.leaveScripts i lease) :=
    .leavesScripts lease i here
  have wants : ledger.Wants (m.slot i).target lease := (fair.lined _ _).mpr ⟨i, here, rfl⟩
  have home : ∀ j, ((m.leaveScripts i lease).slot j).target = (m.slot j).target :=
    fun j => by grind
  have first : ∀ j other, m.First j other → other ≠ lease →
      (m.leaveScripts i lease).First j other := by
    rintro j other ⟨there, front⟩ different
    have stays := Line.head?_leave front different
    constructor <;> grind
  constructor
  case sound => exact does.sound fair.sound
  case ordered => exact fair.ordered.after_returns wants.1
  case lined =>
    intro target other
    have old := fair.lined target other
    simp only [Ledger.Wants, List.mem_append, List.mem_singleton, reduceCtorEq, or_false,
      Deal.returns.injEq, operation?_leaveScripts, home] at old ⊢
    by_cases same : other = lease
    · subst same
      simp only [if_true, reduceCtorEq, false_and, exists_false, iff_false, not_and, not_not]
      intro asks
      by_contra returned
      obtain ⟨j, there, rfl⟩ := old.mp ⟨asks, fun member => returned (.inl member)⟩
      cases here.symm.trans there
      exact returned (.inr ⟨rfl, trivial⟩)
    · simpa [same] using old
  case numbered =>
    intro target other member
    rw [nextOperation_leaveScripts]
    exact fair.numbered target other (by simpa using member)
  case arrival =>
    intro j
    have line := fair.arrival j
    rw [slot_leaveScripts]
    split
    · exact line.sublist List.erase_sublist
    · exact line
  case first =>
    rintro target other ⟨grants, kept⟩
    simp only [List.mem_append, List.mem_singleton, Deal.returns.injEq, reduceCtorEq, or_false,
      not_or, not_and] at grants kept
    obtain ⟨j, front, running⟩ := fair.first target other ⟨grants, kept.1⟩
    have different : other ≠ lease := by
      rintro rfl
      obtain ⟨k, there, rfl⟩ := (fair.lined target other).mp (fair.ordered.wants ⟨grants, kept.1⟩)
      cases here.symm.trans there
      exact kept.2 rfl rfl
    have ahead := front.2
    exact ⟨j, first j other front different, by grind⟩
  case running =>
    intro j running
    have before : (m.slot j).running = true := by grind
    obtain ⟨other, front, grants⟩ := fair.running j before
    have different : other ≠ lease := by
      rintro rfl
      cases here.symm.trans front.1
      have ahead := front.2
      grind
    exact ⟨other, first j other front different, home j ▸ List.mem_append_left _ grants⟩

/-- Who holds the lease makes a call. -/
theorem calls (fair : Fair m ledger) (holds : ledger.Holds target lease) (call : ClientCall) :
    Fair m (ledger ++ [.calls target (some lease) call]) where
  sound := fair.sound
  ordered := fair.ordered.after_calls holds call
  lined := by simpa [Ledger.Wants] using fair.lined
  numbered := by simpa using fair.numbered
  arrival := fair.arrival
  first := by simpa [Ledger.Holds] using fair.first
  running := by simpa using fair.running

/-- Who asks for a lease is told that it is granted or that it is waited for. -/
theorem acquire (fair : Fair m ledger) (target : String) :
    m.nextOperation ≤ (m.acquire target).2.1 ∧
      Ledger.Awaits (ledger ++ [.asks target (m.acquire target).2.1]) target
        (m.acquire target).2.1 ∧
      ((m.acquire target).2.2 = .turn ∨
        (m.acquire target).2.2 = .over (.acquired (m.acquire target).2.1)) := by
  obtain ⟨_, done, _⟩ := slotOf_quietly m target
  rw [acquire_eq]
  exact ⟨done.nextOperation_le, (fair.makes target).awaits_asked target,
    told_takeLease_cases _ _ _⟩

/-- Who waits for a lease is told that it is granted or that it is still waited for. -/
theorem resume (fair : Fair m ledger) (now : Nat) (awaits : ledger.Awaits target lease)
    (input : Input) :
    (m.resume now lease input).2 = .turn ∨
      (m.resume now lease input).2 = .over (.acquired lease) := by
  obtain ⟨i, here, _⟩ := (fair.lined target lease).mp awaits.1
  unfold Manager.resume
  rw [here]
  exact told_takeLease_cases _ _ _

end Fair

/-! ## Turns -/

variable {m : Manager} {s after : Lending} {id? : Option OperationId} {now : Nat}

theorem aside_spares (now : Nat) (sound : Sound m) {move : Move} (allowed : m.Allows move)
    (aside : m.Aside move) : ∃ id, Spares m id (m.move now move).1 ∧
      ∀ i, m.operation? id ≠ some (.acquire i) := by
  by_cases patient : move.isPatient = true
  · cases move_affects now sound allowed patient with
    | nothing id _ other spares => exact ⟨id, spares, other⟩
    | queues target => exact aside.elim
    | takes id input i here | returns id i here => exact absurd here (aside i)
  · cases move with
    | abandon id =>
      refine ⟨id, ?_, aside⟩
      simp only [Manager.move, abandon]
      split
      · exact .ends
      · exact .ends
      · exact .ends
      · next i here => exact absurd here (aside i)
      · exact .finish
      · exact .refl m id
    | _ => exact absurd rfl patient

namespace Lending

theorem Turn.fair (turn : Turn s id? after) (fair : Fair s.manager s.ledger) :
    Fair after.manager after.ledger := by
  cases turn with
  | wait time => exact fair
  | aside move allowed aside =>
    obtain ⟨id, spares, other⟩ := aside_spares s.now fair.sound allowed aside
    obtain ⟨_, effect, _⟩ := move_effect s.now fair.sound allowed
    obtain ⟨_, done⟩ := effect.acts.deeds
    have moved := fair.spared done spares other
    rwa [← List.append_nil s.ledger] at moved
  | asks target =>
    obtain ⟨known, home⟩ := slotOf_known s.manager target
    have made := fair.makes target
    have here : ((s.manager.slotOf target).1.queued (s.manager.slotOf target).2).operation?
        (s.manager.slotOf target).1.nextOperation = some (.acquire (s.manager.slotOf target).2) :=
      (operation?_queued made.sound.crew.fresh).trans (if_pos rfl)
    have awaits := made.awaits_asked target
    have lines := made.asks known
    rw [home] at lines
    have taken := lines.takes awaits here (by rw [slot_queued]; split <;> exact home)
    rw [List.append_assoc] at taken
    exact taken
  | takes target lease awaits =>
    obtain ⟨i, here, home⟩ := (fair.lined target lease).mp awaits.1
    have resumed : s.manager.resume s.now lease .turn = s.manager.takeLease i lease := by
      unfold resume
      rw [here]
    simp only [Lending.move, Manager.move, resumed]
    exact fair.takes awaits here home
  | returns target lease holds =>
    obtain ⟨i, here, rfl⟩ := (fair.lined target lease).mp (fair.ordered.wants holds)
    have released : s.manager.release lease = s.manager.leaveScripts i lease := by
      unfold release
      rw [here]
    simp only [Lending.move, Manager.move, released]
    exact fair.leaves here
  | leaves target lease awaits =>
    obtain ⟨i, here, rfl⟩ := (fair.lined target lease).mp awaits.1
    have abandoned : s.manager.abandon lease = s.manager.leaveScripts i lease := by
      unfold abandon
      rw [here]
    simp only [Lending.move, Manager.move, abandoned]
    exact fair.leaves here

/-- What is noted of a turn is about the operation it goes on with or ends, or about a new one. -/
def News (free : OperationId) (id? : Option OperationId) : Deal → Prop
  | .asks _ lease => free ≤ lease
  | .grants _ lease => free ≤ lease ∨ id? = some lease
  | .returns _ lease => id? = some lease
  | .calls _ _ _ => False

theorem granting_news {free lease : OperationId} {target : String} {wait : Wait}
    (told : wait = .turn ∨ wait = .over (.acquired lease))
    (about : free ≤ lease ∨ id? = some lease) :
    ∀ deal ∈ granting target wait, News free id? deal := by
  rcases told with rfl | rfl
  · exact fun _ member => absurd member List.not_mem_nil
  · intro deal member
    rw [List.mem_singleton.mp member]
    exact about

theorem Turn.news (turn : Turn s id? after) (fair : Fair s.manager s.ledger) :
    ∃ news, after.ledger = s.ledger ++ news ∧
      ∀ deal ∈ news, News s.manager.nextOperation id? deal := by
  have single : ∀ {deal : Deal}, News s.manager.nextOperation id? deal →
      ∀ other ∈ [deal], News s.manager.nextOperation id? other := fun about other member =>
    List.mem_singleton.mp member ▸ about
  cases turn with
  | wait time => exact ⟨[], (List.append_nil _).symm, fun _ member => by cases member⟩
  | aside move allowed aside => exact ⟨[], rfl, fun _ member => by cases member⟩
  | asks target =>
    obtain ⟨free, _, told⟩ := fair.acquire target
    exact ⟨_, rfl, List.forall_mem_cons.mpr ⟨free, granting_news told (.inl free)⟩⟩
  | takes target lease awaits =>
    exact ⟨_, rfl, granting_news (fair.resume s.now awaits .turn) (.inr rfl)⟩
  | returns target lease holds => exact ⟨_, rfl, single rfl⟩
  | leaves target lease awaits => exact ⟨_, rfl, single rfl⟩

theorem Turn.nextOperation_le (turn : Turn s id? after) (fair : Fair s.manager s.ledger) :
    s.manager.nextOperation ≤ after.manager.nextOperation := by
  have moves : ∀ move, s.manager.Allows move →
      s.manager.nextOperation ≤ (s.manager.move s.now move).1.nextOperation := by
    intro move allowed
    obtain ⟨_, effect, _⟩ := move_effect s.now fair.sound allowed
    obtain ⟨_, done⟩ := effect.acts.deeds
    exact done.nextOperation_le
  cases turn with
  | wait time => exact Nat.le_refl _
  | aside move allowed aside => exact moves move allowed
  | asks target => exact moves _ trivial
  | takes target lease awaits =>
    obtain ⟨i, here, _⟩ := (fair.lined target lease).mp awaits.1
    exact moves _ ⟨_, here, rfl⟩
  | returns target lease holds => exact moves _ trivial
  | leaves target lease awaits => exact moves _ trivial

end Lending

end BrowserScript.Session

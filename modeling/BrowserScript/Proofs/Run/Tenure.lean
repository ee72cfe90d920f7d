import BrowserScript.Proofs.Run.Closure
import BrowserScript.Proofs.Run.Standing

/-!
# When a run has its lease

Whatever it is answered, a run asks for the lease of its target once. It turns to the page and to
sessions only after that, and it gives the lease back when it has turned to them for the last time.
Main definitions: `Run.Asks`, `Run.Serves`. Main result: `Run.script_serves`.
-/

set_option autoImplicit false

namespace BrowserScript.Run

open Running

variable {α β : Type} {target : String}

/-- Requests that take no lease. -/
def Request.isFree : Request → Bool
  | now | sleep _ | isCancelled | progress _ => true
  | _ => false

/-- Requests that turn to the page or to sessions. -/
def Request.isBound : Request → Bool
  | page _ _ | recover _ | attach _ | detach _ => true
  | _ => false

/-- Requests that a run makes while it has the lease of its target. -/
def Request.isHeld (target : String) : Request → Bool
  | page _ _ | recover _ => true
  | attach other | detach other => other == target
  | request => request.isFree

theorem held_of_trial (target : String) (request : Request) (trial : request.isTrial = true) :
    request.isHeld target = true := by
  cases request <;> first | rfl | cases trial

theorem free_unbound {request : Request} (free : request.isFree = true) :
    request.isBound = false := by
  cases request <;> first | rfl | cases free

/-! ## The requests of a piece -/

/-- A piece of a run makes only requests of this kind. -/
def Asks (kind : Request → Bool) (piece : Running α) : Prop :=
  ∀ before log outcome after, Goes piece before log outcome after →
    ∀ entry ∈ log, kind entry.request = true

theorem Keeps.asks {kind : Request → Bool} {piece : Running α} (keeps : Keeps kind piece) :
    Asks kind piece := fun before log outcome after run => (keeps before log outcome after run).1

namespace Asks

variable {kind : Request → Bool}

theorem throw (error : RunError) : Asks kind (throw error : Running α) := by
  intro before log outcome after run
  obtain ⟨rfl, _⟩ := Goes.throw_iff.mp run
  exact fun _ member => absurd member List.not_mem_nil

theorem bind {first : Running α} {next : α → Running β} (start : Asks kind first)
    (rest : ∀ value, Asks kind (next value)) : Asks kind (first >>= next) := by
  intro before log outcome after run
  rcases Goes.bind_iff.mp run with
    ⟨error, failed, _⟩ | ⟨value, middle, opening, closing, early, late, rfl⟩
  · exact start before log _ after failed
  · exact List.forall_mem_append.mpr
      ⟨start before opening _ middle early, rest value middle closing outcome after late⟩

/-- A run has its lease in everything that its steps do. -/
theorem closed (target : String) : Closed (Asks (Request.isHeld target)) where
  pure value := (Keeps.pure value).asks
  throw := throw
  bind := bind
  get _ _ _ _ run := by
    obtain ⟨rfl, _⟩ := Goes.pure_iff.mp run
    exact fun _ member => absurd member List.not_mem_nil
  changes _ _ _ _ _ _ run := by
    obtain ⟨rfl, _⟩ := Goes.pure_iff.mp run
    exact fun _ member => absurd member List.not_mem_nil
  isCancelled := (Keeps.request .isCancelled rfl).asks
  sleep ms := (Keeps.request (.sleep ms) rfl).asks
  progress event := (Keeps.request (.progress event) rfl).asks
  guarded place _ bound :=
    (guarded_keeps (held_of_trial target) place fun session => (bound session).loose).asks

end Asks

theorem attachAndRun_only (settings : Settings) (program : Script) (vars : Variables) :
    Only (Request.isHeld target) (attachAndRun settings program vars target) := by
  intro log result run
  obtain ⟨stopped, _, _, checked, onward, rfl⟩ := Program.Transcript.bind_iff.mp run
  refine List.forall_mem_append.mpr ⟨Only.request .isCancelled rfl _ _ checked, ?_⟩
  cases stopped with
  | true =>
    obtain ⟨rfl, _⟩ := Program.Transcript.pure_iff.mp onward
    exact fun _ member => absurd member List.not_mem_nil
  | false =>
    obtain ⟨answer, _, _, attached, rest, rfl⟩ := Program.Transcript.bind_iff.mp onward
    have attaches : Request.isHeld target (.attach target) = true := beq_self_eq_true target
    refine List.forall_mem_append.mpr ⟨Only.request (.attach target) attaches _ _ attached, ?_⟩
    cases answer with
    | error error =>
      obtain ⟨rfl, _⟩ := Program.Transcript.pure_iff.mp rest
      exact fun _ member => absurd member List.not_mem_nil
    | ok session =>
      obtain ⟨_, _, _, ran, finish, rfl⟩ := Program.Transcript.bind_iff.mp rest
      obtain ⟨rfl, _⟩ := Program.Transcript.pure_iff.mp finish
      rw [List.append_nil]
      exact (Asks.closed target).runSteps ⟨program.id, vars, settings⟩ 0 program.steps _ _ _ _ ran

/-! ## The tenure of the lease -/

/-- Whether a run has yet to ask for its lease, has it, or has given it back. -/
inductive Phase where
  | before
  | within
  | after
  deriving DecidableEq

/-- What a run does from one phase on, whatever it is answered: it goes through the phases in order,
turns to the page and to sessions of its target only while it has the lease, and does not end with
it. -/
inductive Serves (target : String) : Phase → RunProgram α → Prop
  | done {phase : Phase} (result : α) (free : phase ≠ .within) :
      Serves target phase (.done result)
  | free {phase : Phase} {request : Request} {next : request.Answer → RunProgram α}
      (free : request.isFree = true) (rest : ∀ answer, Serves target phase (next answer)) :
      Serves target phase (.ask request next)
  | holds {request : Request} {next : request.Answer → RunProgram α}
      (held : request.isHeld target = true) (rest : ∀ answer, Serves target .within (next answer)) :
      Serves target .within (.ask request next)
  | acquires {next : Unit → RunProgram α} (rest : Serves target .within (next ())) :
      Serves target .before (.ask (.acquire target) next)
  | releases {next : Unit → RunProgram α} (rest : Serves target .after (next ())) :
      Serves target .within (.ask (.release target) next)

namespace Serves

variable {phase : Phase} {request : Request} {next : request.Answer → RunProgram α}

theorem of_free (serves : Serves target phase (.ask request next)) (free : request.isFree = true)
    (answer : request.Answer) : Serves target phase (next answer) := by
  cases serves with
  | free _ rest | holds _ rest => exact rest answer
  | acquires | releases => cases free

theorem of_bound (serves : Serves target phase (.ask request next))
    (bound : request.isBound = true) : phase = .within ∧ request.isHeld target = true ∧
      ∀ answer, Serves target .within (next answer) := by
  cases serves with
  | free free rest =>
    rw [free_unbound free] at bound
    cases bound
  | holds held rest => exact ⟨rfl, held, rest⟩
  | acquires | releases => cases bound

theorem of_acquire {other : String} {next : Unit → RunProgram α}
    (serves : Serves target phase (.ask (.acquire other) next)) :
    phase = .before ∧ other = target ∧ Serves target .within (next ()) := by
  cases serves with
  | free free rest => cases free
  | holds held rest => cases held
  | acquires rest => exact ⟨rfl, rfl, rest⟩

theorem of_release {other : String} {next : Unit → RunProgram α}
    (serves : Serves target phase (.ask (.release other) next)) :
    phase = .within ∧ other = target ∧ Serves target .after (next ()) := by
  cases serves with
  | free free rest => cases free
  | holds held rest => cases held
  | releases rest => exact ⟨rfl, rfl, rest⟩

end Serves

/-- Some answer to a request. -/
def Request.someAnswer : (request : Request) → request.Answer
  | page _ _ => .ok .null
  | now => (0 : Nat)
  | isCancelled => false
  | recover _ => none
  | attach _ => .error .connectionClosed
  | detach _ => .ok ()
  | sleep _ | progress _ | acquire _ | release _ => ()

/-- What may be done while the run has the lease may come before what it does with the lease. -/
theorem Serves.bind {first : RunProgram α} {next : α → RunProgram β}
    (only : Only (Request.isHeld target) first)
    (rest : ∀ value, Serves target .within (next value)) :
    Serves target .within (first >>= next) := by
  induction first with
  | done value => exact rest value
  | ask request further induction =>
    have asked : ∀ answer log result, Program.Transcript (further answer) log result →
        ∀ entry ∈ (⟨request, answer⟩ :: log : Log), entry.request.isHeld target = true :=
      fun answer log result run => only _ result (.ask answer run)
    have held : request.isHeld target = true := by
      -- Every program comes to an end, so the request is in some transcript.
      obtain ⟨_, ⟨run, _⟩, _⟩ := Program.Transcript.exists_unique
        (further request.someAnswer) (fun _ => Request.someAnswer) []
      exact asked _ _ _ run _ List.mem_cons_self
    refine .holds held fun answer => induction answer fun log result run entry member => ?_
    exact asked answer log result run entry (List.mem_cons_of_mem _ member)

/-- A whole run has the lease of its target once, for all it does about sessions and the page. -/
theorem script_serves (settings : Settings) (program : Script) (overrides : Variables)
    (options : RunOptions) :
    Serves options.target .before (Run.script settings program overrides options) := by
  rw [script_eq]
  refine .free rfl fun started => .acquires ?_
  change Serves _ _ (takeTurn settings program overrides options started)
  unfold takeTurn
  refine Serves.bind (attachAndRun_only settings program _) fun ⟨outcome, executed, keep⟩ => ?_
  have parts : Request.isHeld options.target (.detach options.target) = true :=
    beq_self_eq_true options.target
  refine Serves.bind (part_only parts _) fun _ => ?_
  exact .releases (.free rfl fun ended => .done _ nofun)

end BrowserScript.Run

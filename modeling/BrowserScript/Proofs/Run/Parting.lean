import BrowserScript.Proofs.Lists
import BrowserScript.Proofs.Run.Closure
import BrowserScript.Proofs.Run.Tenure

/-!
# How a run parts from its session

Whatever it is answered, a run attaches once it has its lease, works with the session that it has
been given last, asks for a newer one only after the page has said that this one is gone, and gives
the session up before it gives its lease back, if it owes that. Main definitions: `Run.Leg`,
`Run.Travels`. Main result: `Run.script_travels`.
-/

set_option autoImplicit false

namespace BrowserScript.Run

variable {α β : Type} {target : String} {detach : Bool}

/-! ## Legs -/

/-- How far a run has come with its session. -/
inductive Leg where
  /-- It has yet to get its lease. -/
  | outside
  /-- It has its lease and no session. -/
  | idle
  /-- It works with a session. `keep` says whether the session that it has attached to stays when
  the script has ended, and `gone` whether the page has said that the present one is gone. -/
  | on (keep : Bool) (session : SessionHandle) (gone : Bool)
  /-- It has asked to detach. -/
  | parted
  /-- It has given its lease back. -/
  | home (parted : Bool)
  deriving DecidableEq, Repr

/-- Requests that are made to the session manager. -/
def Request.isManaged : Request → Bool
  | .recover _ | .acquire _ | .release _ | .attach _ | .detach _ => true
  | _ => false

/-- The page says that the session is gone. -/
def isGone : Except PageError Json → Bool
  | .ok _ => false
  | .error error => error.isDetach

/-- The handle with which an attachment is answered. -/
def attached? : Program.Entry Request Request.Answer → Option SessionHandle
  | ⟨.attach _, .ok handle⟩ => some handle
  | _ => none

/-- The handle with which an attachment or a recovery is answered. -/
def given? : Program.Entry Request Request.Answer → Option SessionHandle
  | ⟨.attach _, .ok handle⟩ | ⟨.recover _, some handle⟩ => some handle
  | _ => none

/-- The handles that a run has been given when it attached. -/
def attachments (log : Log) : List SessionHandle := log.filterMap attached?

namespace Leg

/-- The run has its lease. -/
def isInside : Leg → Bool
  | outside | home _ => false
  | _ => true

def isParted : Leg → Bool
  | parted => true
  | _ => false

/-- The run has given its lease back. -/
def isHome : Leg → Bool
  | home _ => true
  | _ => false

/-- The run has detached and does not attach again. -/
def hasParted : Leg → Bool
  | parted | home true => true
  | _ => false

/-- The run is to detach before it gives its lease back. -/
def owes (detach : Bool) : Leg → Bool
  | idle => detach
  | on keep _ _ => detach || !keep
  | _ => false

/-- What a run may ask for. -/
def may (target : String) (detach : Bool) : Leg → Request → Bool
  | outside, .acquire other => other == target
  | idle, .attach other => other == target
  | on _ session _, .page other _ => other == session.sessionId
  | on _ session gone, .recover stale => gone && stale == session
  | leg, .detach other => leg.isInside && other == target
  | leg, .release other => leg.isInside && !leg.owes detach && other == target
  | _, request => request.isFree

/-- Where a run is when it has been answered. -/
def next : Leg → (request : Request) → request.Answer → Leg
  | _, .acquire _, _ => idle
  | _, .attach _, .ok handle => on handle.keepAlive handle false
  | on keep session gone, .page _ _, answer => on keep session (gone || isGone answer)
  | on keep _ _, .recover _, some handle => on keep handle false
  | _, .detach _, _ => parted
  | leg, .release _, _ => home leg.isParted
  | leg, _, _ => leg

theorem may_free {leg : Leg} {request : Request} (free : request.isFree = true) :
    leg.may target detach request = true := by
  cases request <;> first | (cases leg <;> rfl) | cases free

theorem next_free {leg : Leg} {request : Request} (free : request.isFree = true)
    (answer : request.Answer) : leg.next request answer = leg := by
  cases request <;> first | (cases leg <;> rfl) | cases free

section

variable {leg : Leg} {other : String}

theorem may_acquire (may : leg.may target detach (.acquire other) = true) :
    leg = .outside ∧ other = target := by
  cases leg <;> simp_all [Leg.may, Request.isFree]

example : outside.may "T1" false (.acquire "T1") = true := by cbv

theorem may_outside {request : Request} (may : outside.may target detach request = true)
    (managed : request.isManaged = true) : request = .acquire target := by
  cases request <;> simp_all [Leg.may, Leg.isInside, Request.isFree, Request.isManaged]

theorem may_attach (may : leg.may target detach (.attach other) = true) :
    leg = .idle ∧ other = target := by
  cases leg <;> simp_all [Leg.may, Request.isFree]

theorem may_detach (may : leg.may target detach (.detach other) = true) :
    leg.isInside = true ∧ other = target := by
  cases leg <;> simp_all [Leg.may, Leg.isInside]

theorem may_page {call : PageCall} (may : leg.may target detach (.page other call) = true) :
    ∃ keep handle gone, leg = .on keep handle gone ∧ other = handle.sessionId := by
  cases leg with
  | on keep handle gone => exact ⟨keep, handle, gone, rfl, beq_iff_eq.mp may⟩
  | outside | idle | parted | home => cases may

theorem may_recover {stale : SessionHandle}
    (may : leg.may target detach (.recover stale) = true) : ∃ keep, leg = .on keep stale true := by
  cases leg <;> simp_all [Leg.may, Request.isFree]

/-- A run comes to have parted when it asks to detach. -/
theorem hasParted_next {request : Request} {answer : request.Answer}
    (parted : (leg.next request answer).hasParted = true) :
    leg.hasParted = true ∨ ∃ target, request = .detach target := by
  cases request with
  | detach target => exact .inr ⟨target, rfl⟩
  | attach | recover => cases leg <;> cases answer <;> simp_all [Leg.next, hasParted]
  | _ => cases leg <;> simp_all [Leg.next, hasParted, isParted]

example : (idle.next (.detach "T1") (.ok ())).hasParted = true := by cbv

/-- A run that has given its lease back asks for nothing about its target. -/
theorem isHome_of_may {request : Request} (may : leg.may target detach request = true)
    (managed : request.isManaged = true) : leg.isHome = false := by
  cases leg <;> cases request <;>
    simp_all [Leg.may, Leg.isHome, Leg.isInside, Request.isFree, Request.isManaged]

/-- A run that the manager answers works with the session that it has had, or with one that it has
just been given. -/
theorem next_on {request : Request} {answer : request.Answer} {keep gone : Bool}
    {handle : SessionHandle} (managed : request.isManaged = true)
    (on : leg.next request answer = .on keep handle gone) :
    leg = .on keep handle gone ∨ given? ⟨request, answer⟩ = some handle ∧ gone = false := by
  cases request with
  | attach | recover => cases leg <;> cases answer <;> simp_all [Leg.next, given?]
  | page | now | sleep | isCancelled | progress => cases managed
  | acquire | release | detach => cases leg <;> cases on

end

/-- Where a run is after what it has exchanged. -/
def along (leg : Leg) (log : Log) : Leg :=
  log.foldl (fun leg entry => leg.next entry.request entry.answer) leg

theorem along_append (leg : Leg) (early late : Log) :
    leg.along (early ++ late) = (leg.along early).along late := List.foldl_append

/-- What a run has exchanged goes with where it is: it has attached to a session that stays as its
leg says, and has not come home without detaching if it was to detach. -/
def Fits (detach : Bool) (log : Log) : Leg → Prop
  | outside | idle => attachments log = []
  | on keep _ _ => ∀ handle ∈ attachments log, handle.keepAlive = keep
  | parted | home true => True
  | home false => detach = false ∧ ∀ handle ∈ attachments log, handle.keepAlive = true

theorem Fits.next {leg : Leg} {log : Log} {request : Request} (fits : leg.Fits detach log)
    (may : leg.may target detach request = true) (answer : request.Answer) :
    (leg.next request answer).Fits detach (log ++ [⟨request, answer⟩]) := by
  have grown : attachments (log ++ [⟨request, answer⟩]) =
      attachments log ++ (attached? ⟨request, answer⟩).toList := filterMap_snoc log _
  cases request with
  | attach other =>
    cases leg with
    | idle => cases answer <;> simp_all [Leg.next, Fits, attached?]
    | outside | on | parted | home => cases may
  | recover stale =>
    cases leg with
    | on => cases answer <;> simp_all [Leg.next, Fits, attached?]
    | outside | idle | parted | home => cases may
  | _ =>
    cases leg <;>
      simp_all [Leg.may, Leg.next, Fits, Request.isFree, isInside, isParted, owes, attached?]

end Leg

/-! ## Programs along their legs -/

/-- Whatever it is answered, a program asks for nothing but what it may ask for, and ends as it is
to end. -/
def Travels (target : String) (detach : Bool) (ends : Leg → α → Prop) : RunProgram α → Leg → Prop
  | .done result, leg => ends leg result
  | .ask request further, leg => leg.may target detach request = true ∧
      ∀ answer, Travels target detach ends (further answer) (leg.next request answer)

namespace Travels

variable {leg : Leg}

theorem free {ends : Leg → α → Prop} {request : Request} {further : request.Answer → RunProgram α}
    (free : request.isFree = true)
    (rest : ∀ answer, Travels target detach ends (further answer) leg) :
    Travels target detach ends (.ask request further) leg := by
  refine ⟨Leg.may_free free, fun answer => ?_⟩
  rw [Leg.next_free free]
  exact rest answer

theorem bind {ends : Leg → α → Prop} {after : Leg → β → Prop} {first : RunProgram α}
    {further : α → RunProgram β} (travels : Travels target detach ends first leg)
    (rest : ∀ leg value, ends leg value → Travels target detach after (further value) leg) :
    Travels target detach after (first >>= further) leg := by
  induction first generalizing leg with
  | done value => exact rest leg value travels
  | ask request onward induction =>
    exact ⟨travels.1, fun answer => induction answer (travels.2 answer)⟩

end Travels

theorem exists_transcript (program : RunProgram α) :
    ∃ log result, Program.Transcript program log result := by
  obtain ⟨⟨log, result⟩, ⟨run, _⟩, _⟩ :=
    Program.Transcript.exists_unique program (fun _ => Request.someAnswer) []
  exact ⟨log, result, run⟩

theorem isGone_of_not_calm {session : String} {call : PageCall} {answer : Except PageError Json}
    (rough : ¬ Calm ⟨.page session call, answer⟩) : isGone answer = true := by
  cases answer with
  | ok value => exact absurd (fun _ same => by cases same) rough
  | error error =>
    cases said : error.isDetach with
    | true => exact said
    | false => exact absurd (fun _ same => Except.error.inj same ▸ said) rough

/-- A program that is tied to the session of a run stays with it, and finds the session gone only
when the page has said so. -/
theorem Tied.travels {lost : α → Prop} {program : RunProgram α} {handle : SessionHandle}
    (tied : Tied handle.sessionId lost program) (keep gone : Bool) :
    Travels target detach (fun leg result => ∃ still, leg = .on keep handle still ∧
      (gone = true ∨ lost result → still = true)) program (.on keep handle gone) := by
  induction program generalizing lost gone with
  | done result =>
    refine ⟨gone, rfl, fun said => said.resolve_right ?_⟩
    exact (tied [] result (.done result)).2 fun _ member => absurd member List.not_mem_nil
  | ask request further induction =>
    have through : request.isThrough handle.sessionId = true := by
      obtain ⟨log, result, run⟩ := exists_transcript (further request.someAnswer)
      exact (tied _ result (.ask _ run)).1 _ List.mem_cons_self
    have onward : ∀ answer, Calm ⟨request, answer⟩ →
        Tied handle.sessionId lost (further answer) := by
      intro answer calm log result run
      obtain ⟨asked, still⟩ := tied _ result (.ask answer run)
      exact ⟨(List.forall_mem_cons.mp asked).2, fun undisturbed =>
        still (List.forall_mem_cons.mpr ⟨calm, undisturbed⟩)⟩
    have anyway : ∀ answer, Tied handle.sessionId (fun _ => False) (further answer) :=
      fun answer log result run =>
        ⟨(List.forall_mem_cons.mp (tied _ result (.ask answer run)).1).2, fun _ => id⟩
    cases request with
    | now => exact .free rfl fun answer => induction answer (onward answer trivial) gone
    | sleep ms => exact .free rfl fun answer => induction answer (onward answer trivial) gone
    | page other call =>
      refine ⟨through, fun answer => ?_⟩
      change Travels target detach _ _ (.on keep handle (gone || isGone answer))
      by_cases calm : Calm ⟨.page other call, answer⟩
      · refine (bind_pure (further answer)) ▸ (induction answer (onward answer calm) _).bind ?_
        rintro leg result ⟨still, rfl, said⟩
        refine ⟨still, rfl, fun lost => said (lost.imp_left fun before => ?_)⟩
        rw [before, Bool.true_or]
      · -- From here on it does not matter what else the page says.
        refine (bind_pure (further answer)) ▸ (induction answer (anyway answer) _).bind ?_
        rintro leg result ⟨still, rfl, said⟩
        refine ⟨still, rfl, fun _ => said (.inl ?_)⟩
        rw [isGone_of_not_calm calm, Bool.or_true]
    | isCancelled | progress | recover | acquire | release | attach | detach => cases through

/-! ## Pieces of a run -/

/-- A piece of a run begins and ends with the session that the run has. -/
def Rides (target : String) (detach keep : Bool) (piece : Running α) : Prop :=
  ∀ before gone, Travels target detach
    (fun leg (result : Except RunError α × RunState) =>
      ∃ still, leg = .on keep result.2.session still)
    (piece.run.run before) (.on keep before.session gone)

namespace Rides

variable {keep : Bool}

theorem pure (value : α) : Rides target detach keep (pure value : Running α) :=
  fun _ gone => ⟨gone, rfl⟩

theorem throw (error : RunError) : Rides target detach keep (throw error : Running α) :=
  fun _ gone => ⟨gone, rfl⟩

theorem bind {first : Running α} {next : α → Running β} (start : Rides target detach keep first)
    (rest : ∀ value, Rides target detach keep (next value)) :
    Rides target detach keep (first >>= next) := by
  intro before gone
  rw [ExceptT.run_bind, StateT.run_bind]
  refine (start before gone).bind ?_
  rintro _ ⟨result, middle⟩ ⟨still, rfl⟩
  cases result with
  | ok value => exact rest value middle still
  | error error => exact ⟨still, rfl⟩

/-- A program that does not touch the state of the run comes before the rest. -/
theorem asks {ends : Leg → α → Prop} {after : Leg → Except RunError β × RunState → Prop}
    {program : RunProgram α} {next : α → Running β} {before : RunState} {leg : Leg}
    (first : Travels target detach ends program leg)
    (rest : ∀ leg value, ends leg value →
      Travels target detach after ((next value).run.run before) leg) :
    Travels target detach after ((ask program >>= next).run.run before) leg := by
  have unfolded : (ask program >>= next).run.run before =
      program >>= fun value => (next value).run.run before := by
    simp [ask, ExceptT.run_bind]
  rw [unfolded]
  exact first.bind rest

theorem free (request : Request) (free : request.isFree = true) :
    Rides target detach keep (ask (Program.request request)) :=
  fun _ gone => .free free fun _ => ⟨gone, rfl⟩

theorem get : Rides target detach keep (get : Running RunState) := fun _ gone => ⟨gone, rfl⟩

theorem stepFailed (place : Place) (cause : StepFailure) :
    Rides target detach keep (stepFailed place cause : Running α) :=
  get.bind fun _ => throw _

theorem sessionLost (place : Place) :
    Rides target detach keep (sessionLost place : Running α) :=
  get.bind fun _ => throw _

/-- The run asks for a newer session only after the page has said that its session is gone. -/
theorem guarded (place : Place) (operation : String → StepProgram α)
    (bound : ∀ session, Bound session (operation session)) :
    Rides target detach keep (guarded place operation) := by
  intro before gone
  change Travels target detach _
    ((ask (operation before.session.sessionId).run >>= _).run.run before) _
  refine asks ((bound before.session.sessionId).travels keep gone) ?_
  rintro _ result ⟨still, rfl, said⟩
  cases result with
  | ok value => exact pure value before still
  | error failure =>
    dsimp only
    split
    · next lost =>
      obtain rfl := said (.inr ⟨failure, rfl, lost⟩)
      have recovers : Travels target detach
          (fun leg answer => leg = (Leg.on keep before.session true).next (.recover _) answer)
          (recover before.session) (.on keep before.session true) :=
        ⟨beq_self_eq_true before.session, fun _ => rfl⟩
      change Travels target detach _ ((ask (recover before.session) >>= _).run.run before) _
      refine asks recovers ?_
      rintro _ answer rfl
      cases answer with
      | none => exact sessionLost place before true
      | some session =>
        change Travels target detach _ ((ask (operation session.sessionId).run >>= _).run.run
          { before with session }) (.on keep session false)
        refine asks ((bound session.sessionId).travels keep false) ?_
        rintro _ result ⟨still, rfl, _⟩
        cases result with
        | ok value => exact pure value { before with session } still
        | error failure =>
          dsimp only
          split
          · exact sessionLost place { before with session } still
          · exact stepFailed place failure { before with session } still
    · exact stepFailed place failure before still

theorem closed (target : String) (detach keep : Bool) : Closed (Rides target detach keep) where
  pure := pure
  throw := throw
  bind := bind
  get _ gone := ⟨gone, rfl⟩
  changes _ same before gone := ⟨gone, congrArg (Leg.on keep · gone) (same before).symm⟩
  isCancelled := free .isCancelled rfl
  sleep ms := free (.sleep ms) rfl
  progress event := free (.progress event) rfl
  guarded := guarded

end Rides

/-! ## Whole runs -/

/-- The run has its lease and is to detach if it has been asked to or its session does not stay. -/
structure Leg.Leaves (detach keep : Bool) (leg : Leg) : Prop where
  inside : leg.isInside = true
  owes : leg.owes detach = (detach || !keep)

theorem attachAndRun_travels (settings : Settings) (program : Script) (vars : Variables) :
    Travels target detach (fun leg result => leg.Leaves detach result.2.2)
      (attachAndRun settings program vars target) .idle := by
  have unattached : Leg.idle.Leaves detach true := ⟨rfl, (Bool.or_false detach).symm⟩
  refine .free rfl fun stopped => ?_
  cases stopped with
  | true => exact unattached
  | false =>
    refine ⟨beq_self_eq_true target, fun answer => ?_⟩
    cases answer with
    | error error => exact unattached
    | ok session =>
      have rides := (Rides.closed target detach session.keepAlive).runSteps
        ⟨program.id, vars, settings⟩ 0 program.steps
      refine (rides ⟨session, 0, 0⟩ false).bind ?_
      rintro _ ⟨outcome, state⟩ ⟨still, rfl⟩
      exact ⟨rfl, rfl⟩

/-- A run that owes it has parted before it gives its lease back. -/
theorem part_travels {leg : Leg} {keep : Bool} (leaves : leg.Leaves detach keep) :
    Travels target detach (fun leg _ => leg.isInside = true ∧ leg.owes detach = false)
      (part target (detach || !keep)) leg := by
  cases owed : detach || !keep with
  | false => exact ⟨leaves.inside, leaves.owes.trans owed⟩
  | true =>
    refine ⟨?_, fun _ => ⟨rfl, rfl⟩⟩
    have inside := leaves.inside
    cases leg <;> first | exact beq_self_eq_true target | cases inside

/-- A run gives back its lease as the last thing it does about its target. -/
theorem script_travels (settings : Settings) (program : Script) (overrides : Variables)
    (options : RunOptions) :
    Travels options.target options.detach (fun leg _ => leg.isHome = true)
      (Run.script settings program overrides options) .outside := by
  rw [script_eq]
  refine .free rfl fun started => ⟨beq_self_eq_true options.target, fun _ => ?_⟩
  change Travels _ _ _ (takeTurn settings program overrides options started) .idle
  refine (attachAndRun_travels settings program _).bind ?_
  rintro leg ⟨outcome, executed, keep⟩ leaves
  refine (part_travels leaves).bind ?_
  rintro leg _ ⟨inside, settled⟩
  have may : leg.may options.target options.detach (.release options.target) = true := by
    cases leg <;> simp_all [Leg.may, Leg.isInside]
  exact ⟨may, fun _ => .free rfl fun _ => by cases leg <;> rfl⟩

end BrowserScript.Run

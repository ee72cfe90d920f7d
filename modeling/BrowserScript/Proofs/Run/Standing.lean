import BrowserScript.Proofs.Run.Noted

/-!
# Where a run stands

A run waits for its turn, works for the last thing it has begun, has leave to begin the next one, or
has found that it is no longer wanted. What it notes moves it from one standing to another, and only
these moves occur, whatever it is answered. Main definitions: `Run.Standing`, `Run.Standing.Moves`,
`Run.Heeds`. Main result: `Run.script_stands`.
-/

set_option autoImplicit false

namespace BrowserScript.Run

open Running

variable {α β : Type}

/-! ## Standings and moves -/

/-- Requests on behalf of something begun: the page, the clock, and the session to work on. -/
def Request.isWork : Request → Bool
  | page _ _ | now | sleep _ | recover _ | attach _ => true
  | _ => false

/-- Requests with which something is tried: the page, the clock, and a session to go on with. -/
def Request.isTrial : Request → Bool
  | page _ _ | now | sleep _ | recover _ => true
  | _ => false

/-- Requests on the way out. -/
def Request.isLeaving : Request → Bool
  | now | release _ | detach _ => true
  | _ => false

/-- Requests between activations: pauses, reports, and those on the way out. -/
def Request.isAside : Request → Bool
  | sleep _ | progress _ => true
  | request => request.isLeaving

inductive Standing where
  /-- It is not yet the turn of the run. -/
  | queued
  /-- The last thing begun, if any, is under way or done. -/
  | within (here : Option Activation)
  /-- The run is wanted, and begins this now. -/
  | cleared (next : Activation)
  /-- The run is not wanted, so this is not begun. -/
  | stopped (next : Activation)
  deriving DecidableEq, Repr

namespace Standing

/-- What a run may do next, and where it stands then. -/
inductive Moves : Standing → Program.Entry Note Note.Answer → Standing → Prop
  | queues {time : Nat} : Moves queued ⟨.asks none .now, time⟩ queued
  | enters {target : String} : Moves queued ⟨.asks none (.acquire target), ()⟩ (within none)
  | works {here : Activation} {request : Request} {answer : request.Answer}
      (work : request.isWork = true) :
      Moves (within (some here)) ⟨.asks (some here) request, answer⟩ (within (some here))
  | passes {here : Option Activation} {request : Request} {answer : request.Answer}
      (aside : request.isAside = true) :
      Moves (within here) ⟨.asks none request, answer⟩ (within here)
  | clears {here : Option Activation} {next : Activation} (follows : next.Follows here) :
      Moves (within here) ⟨.checks next, false⟩ (cleared next)
  | begins {next : Activation} : Moves (cleared next) ⟨.begins next, ()⟩ (within (some next))
  | stops {here : Option Activation} {next : Activation} (follows : next.Follows here) :
      Moves (within here) ⟨.checks next, true⟩ (stopped next)
  | leaves {next : Activation} {request : Request} {answer : request.Answer}
      (leaving : request.isLeaving = true) :
      Moves (stopped next) ⟨.asks none request, answer⟩ (stopped next)

/-- An account moves a run from one standing to another. -/
inductive Leads : Standing → Account → Standing → Prop
  | stays {standing : Standing} : Leads standing [] standing
  | moves {start middle standing : Standing} {entry : Program.Entry Note Note.Answer}
      {account : Account} (move : Moves start entry middle)
      (rest : Leads middle account standing) : Leads start (entry :: account) standing

theorem Leads.append_iff {start standing : Standing} {before after : Account} :
    Leads start (before ++ after) standing ↔
      ∃ middle, Leads start before middle ∧ Leads middle after standing := by
  constructor
  · intro leads
    induction before generalizing start with
    | nil => exact ⟨start, .stays, leads⟩
    | cons entry before induction =>
      cases leads with
      | moves move rest =>
        obtain ⟨middle, early, late⟩ := induction rest
        exact ⟨middle, .moves move early, late⟩
  · rintro ⟨middle, early, late⟩
    induction early with
    | stays => exact late
    | moves move _ induction => exact .moves move (induction late)

theorem Leads.then {start middle standing : Standing} {before after : Account}
    (early : Leads start before middle) (late : Leads middle after standing) :
    Leads start (before ++ after) standing :=
  append_iff.mpr ⟨middle, early, late⟩

/-- Requests that leave a standing as it is may be made one after the other. -/
theorem Leads.noted {standing : Standing} {behalf : Option Activation} {log : Log}
    (still : ∀ entry ∈ log, Moves standing ⟨.asks behalf entry.request, entry.answer⟩ standing) :
    Leads standing (log.noted behalf) standing := by
  induction log with
  | nil => exact .stays
  | cons entry log induction =>
    obtain ⟨here, later⟩ := List.forall_mem_cons.mp still
    exact .moves here (induction later)

/-- Something has been begun, and the run may go on. -/
def Begun (standing : Standing) : Prop := ∃ here, standing = within (some here)

/-- The run was not wanted when it was to begin something in this top-level step. -/
def Stopped (index : Nat) (standing : Standing) : Prop :=
  ∃ next, standing = stopped next ∧ next.index = index

/-- An error tells where the run stands: it is cancelled just when it was found not to be wanted. -/
def Fits (standing : Standing) : RunError → Prop
  | .cancelled index => standing.Stopped index
  | _ => standing.Begun

end Standing

open Standing

/-- How a piece of a run ends and where the run stands then go together. -/
def Ends (onward : α → Standing → Prop) : Except RunError α → Standing → Prop
  | .ok value, standing => onward value standing
  | .error error, standing => standing.Fits error

/-- Whatever it is answered, a piece of a run makes only moves that are allowed from where the run
stands at first, and ends where it is to end. -/
def Heeds (first : RunState → Standing → Prop) (piece : Noting α)
    (last : α → RunState → Standing → Prop) : Prop :=
  ∀ before start account outcome after, first before start →
    Goes piece before account outcome after →
      ∃ standing, Leads start account standing ∧
        Ends (fun value => last value after) outcome standing

namespace Heeds

variable {first : RunState → Standing → Prop} {middle : α → RunState → Standing → Prop}
  {last : β → RunState → Standing → Prop}

theorem pure {value : β}
    (here : ∀ state standing, first state standing → last value state standing) :
    Heeds first (Pure.pure value) last := by
  intro before start account outcome after holds run
  obtain ⟨rfl, rfl, rfl⟩ := Goes.pure_iff.mp run
  exact ⟨start, .stays, here _ _ holds⟩

theorem throw {error : RunError}
    (fits : ∀ state standing, first state standing → standing.Fits error) :
    Heeds first (throw error : Noting β) last := by
  intro before start account outcome after holds run
  obtain ⟨rfl, rfl, rfl⟩ := Goes.throw_iff.mp run
  exact ⟨start, .stays, fits _ _ holds⟩

theorem bind {piece : Noting α} {next : α → Noting β} (early : Heeds first piece middle)
    (late : ∀ value, Heeds (middle value) (next value) last) :
    Heeds first (piece >>= next) last := by
  intro before start account outcome after holds run
  rcases Goes.bind_iff.mp run with
    ⟨error, failed, rfl⟩ | ⟨value, state, opening, rest, began, finish, rfl⟩
  · exact early before start account (.error error) after holds failed
  · obtain ⟨reached, leads, ends⟩ := early before start opening (.ok value) state holds began
    obtain ⟨standing, onward, further⟩ := late value state reached rest outcome after ends finish
    exact ⟨standing, leads.then onward, further⟩

theorem weaken {fewer : RunState → Standing → Prop} {more : β → RunState → Standing → Prop}
    {piece : Noting β} (heeds : Heeds first piece last)
    (before : ∀ state standing, fewer state standing → first state standing)
    (after : ∀ value state standing, last value state standing → more value state standing) :
    Heeds fewer piece more := by
  intro state start account outcome later holds run
  obtain ⟨standing, leads, ends⟩ := heeds state start account outcome later (before _ _ holds) run
  cases outcome with
  | ok value => exact ⟨standing, leads, after value later standing ends⟩
  | error error => exact ⟨standing, leads, ends⟩

theorem get_bind {next : RunState → Noting β}
    (rest : ∀ state,
      Heeds (fun now standing => now = state ∧ first now standing) (next state) last) :
    Heeds first (get >>= next) last :=
  fun before start account outcome after holds run =>
    rest before before start account outcome after ⟨rfl, holds⟩ (Goes.get_bind_iff.mp run)

theorem modify_bind {change : RunState → RunState} {next : PUnit → Noting β}
    {changed : RunState → Standing → Prop}
    (becomes : ∀ state standing, first state standing → changed (change state) standing)
    (rest : Heeds changed (next ⟨⟩) last) : Heeds first (modify change >>= next) last :=
  fun before start account outcome after holds run =>
    rest (change before) start account outcome after (becomes before start holds)
      (Goes.modify_bind_iff.mp run)

end Heeds

/-! ## Notes as moves -/

/-- The run is in a top-level step and stands there. -/
def At (top : Nat) (here : Standing) (state : RunState) (standing : Standing) : Prop :=
  state.index = top ∧ standing = here

/-- The run is in a top-level step, has begun something there, and may go on. -/
def Inside (top : Nat) (state : RunState) (standing : Standing) : Prop :=
  state.index = top ∧ ∃ here : Activation, standing = within (some here) ∧ here.top? = some top

theorem At.inside {top : Nat} {here : Activation} (inTop : here.top? = some top) {state : RunState}
    {standing : Standing} (holds : At top (.within (some here)) state standing) :
    Inside top state standing :=
  ⟨holds.1, here, holds.2, inTop⟩

/-- This may come next. -/
def Awaits (next : Activation) (standing : Standing) : Prop :=
  ∃ here, standing = within (some here) ∧ next.Follows (some here)

/-- Where a check leads. -/
def answered (next : Activation) (stopped : Bool) : Standing :=
  if stopped then .stopped next else .cleared next

theorem checks_heeds (next : Activation) (holds : RunState → Prop) :
    Heeds (fun state standing => holds state ∧ Awaits next standing) (Noted.checks next)
      fun stopped state standing => holds state ∧ standing = answered next stopped := by
  rintro before _ account outcome after ⟨holds, here, rfl, follows⟩ run
  obtain ⟨stopped, asked, rfl, rfl⟩ := Goes.lift_iff.mp run
  obtain rfl := Program.Transcript.request_iff.mp asked
  refine ⟨answered next stopped, .moves ?_ .stays, holds, rfl⟩
  cases stopped with
  | true => exact .stops follows
  | false => exact .clears follows

theorem begins_heeds (top : Nat) (next : Activation) :
    Heeds (At top (.cleared next)) (Noted.begins next)
      fun _ => At top (.within (some next)) := by
  rintro before _ account outcome after ⟨here, rfl⟩ run
  obtain ⟨_, asked, rfl, rfl⟩ := Goes.lift_iff.mp run
  obtain rfl := Program.Transcript.request_iff.mp asked
  exact ⟨_, .moves .begins .stays, here, rfl⟩

/-- A check in a top-level step: either the run ends here, or it may begin what comes next. -/
theorem wanted_heeds {top : Nat} {next : Activation} (inTop : next.top? = some top) :
    Heeds (Inside top) (Noted.wanted next) fun _ => At top (.cleared next) := by
  have awaits : ∀ state standing, Inside top state standing →
      state.index = top ∧ Awaits next standing := by
    rintro state _ ⟨index, here, rfl, same⟩
    exact ⟨index, here, rfl, Activation.follows_of_top? same inTop⟩
  refine ((checks_heeds next _).weaken awaits fun _ _ _ => id).bind fun stopped => ?_
  cases stopped with
  | true =>
    refine Heeds.get_bind fun state => Heeds.throw ?_
    rintro _ standing ⟨rfl, here, rfl⟩
    refine ⟨next, rfl, ?_⟩
    rw [Activation.index, inTop, here]
    rfl
  | false => exact Heeds.pure fun state standing holds => holds

/-! ## Pieces of a step -/

/-- A program makes only requests of this kind. -/
def Only (kind : Request → Bool) (program : RunProgram α) : Prop :=
  ∀ log result, Program.Transcript program log result → ∀ entry ∈ log, kind entry.request = true

theorem Only.request {kind : Request → Bool} (request : Request) (allowed : kind request = true) :
    Only kind (Program.request request) := by
  intro log answer asked entry member
  obtain rfl := Program.Transcript.request_iff.mp asked
  rw [List.mem_singleton.mp member]
  exact allowed

/-- A piece of a run makes only requests of this kind, stays in its top-level step and is not
cancelled. -/
def Keeps (kind : Request → Bool) (piece : Running α) : Prop :=
  ∀ before log outcome after, Goes piece before log outcome after →
    (∀ entry ∈ log, kind entry.request = true) ∧ after.index = before.index ∧
      ∀ index, outcome ≠ .error (.cancelled index)

namespace Keeps

variable {kind : Request → Bool}

theorem pure (value : α) : Keeps kind (Pure.pure value) := by
  intro before log outcome after run
  obtain ⟨rfl, rfl, rfl⟩ := Goes.pure_iff.mp run
  exact ⟨fun _ member => absurd member List.not_mem_nil, rfl, fun _ same => by cases same⟩

theorem throw {error : RunError} (other : ∀ index, error ≠ .cancelled index) :
    Keeps kind (throw error : Running α) := by
  intro before log outcome after run
  obtain ⟨rfl, rfl, rfl⟩ := Goes.throw_iff.mp run
  refine ⟨fun _ member => absurd member List.not_mem_nil, rfl, fun index same => ?_⟩
  cases same
  exact other index rfl

theorem ask {program : RunProgram α} (only : Only kind program) : Keeps kind (ask program) := by
  intro before log outcome after run
  obtain ⟨value, asked, rfl, rfl⟩ := Goes.ask_iff.mp run
  exact ⟨only log value asked, rfl, fun _ same => by cases same⟩

theorem request (request : Request) (allowed : kind request = true) :
    Keeps kind (Run.ask (Program.request request)) := ask (Only.request request allowed)

theorem bind {first : Running α} {next : α → Running β} (start : Keeps kind first)
    (rest : ∀ value, Keeps kind (next value)) : Keeps kind (first >>= next) := by
  intro before log outcome after run
  rcases Goes.bind_iff.mp run with
    ⟨error, failed, rfl⟩ | ⟨value, middle, opening, closing, early, late, rfl⟩
  · obtain ⟨only, stays, other⟩ := start before log _ after failed
    refine ⟨only, stays, fun index same => ?_⟩
    cases same
    exact other index rfl
  · obtain ⟨only, stays, _⟩ := start before opening _ middle early
    obtain ⟨further, remains, other⟩ := rest value middle closing outcome after late
    exact ⟨List.forall_mem_append.mpr ⟨only, further⟩, remains.trans stays, other⟩

theorem get_bind {next : RunState → Running β} (rest : ∀ state, Keeps kind (next state)) :
    Keeps kind (get >>= next) := fun before log outcome after run =>
  rest before before log outcome after (Goes.get_bind_iff.mp run)

theorem modify_bind {change : RunState → RunState} {next : PUnit → Running β}
    (same : ∀ state, (change state).index = state.index) (rest : Keeps kind (next ⟨⟩)) :
    Keeps kind (modify change >>= next) := by
  intro before log outcome after run
  obtain ⟨only, stays, other⟩ :=
    rest (change before) log outcome after (Goes.modify_bind_iff.mp run)
  exact ⟨only, stays.trans (same before), other⟩

end Keeps

theorem trial_of_stepwise {request : Request} (stepwise : request.isStepwise = true) :
    request.isTrial = true := by
  cases request <;> first | rfl | cases stepwise

theorem work_of_trial (request : Request) (trial : request.isTrial = true) :
    request.isWork = true := by
  cases request <;> first | rfl | cases trial

theorem stepFailed_keeps (kind : Request → Bool) (place : Place) (cause : StepFailure) :
    Keeps kind (stepFailed place cause : Running α) :=
  Keeps.get_bind fun _ => Keeps.throw fun _ same => by cases same

theorem sessionLost_keeps (kind : Request → Bool) (place : Place) :
    Keeps kind (sessionLost place : Running α) :=
  Keeps.get_bind fun _ => Keeps.throw fun _ same => by cases same

section

variable {kind : Request → Bool} (trials : ∀ request : Request, request.isTrial = true →
  kind request = true)

include trials

theorem plain_keeps {piece : StepProgram α} (plain : Plain piece) : Keeps kind (ask piece.run) :=
  Keeps.ask fun log result run entry member =>
    trials _ (trial_of_stepwise ((plain log result run).1 entry member))

theorem guarded_keeps (place : Place) {operation : String → StepProgram α}
    (plain : ∀ session, Plain (operation session)) : Keeps kind (guarded place operation) := by
  refine Keeps.get_bind fun state => ?_
  refine (plain_keeps trials (plain _)).bind fun result => ?_
  cases result with
  | ok value => exact Keeps.pure value
  | error failure =>
    dsimp only
    split
    · refine Keeps.get_bind fun state => ?_
      refine (Keeps.request (.recover _) (trials _ rfl)).bind fun recovered => ?_
      cases recovered with
      | none => exact sessionLost_keeps _ place
      | some session =>
        refine Keeps.modify_bind (fun _ => rfl) ?_
        refine (plain_keeps trials (plain _)).bind fun result => ?_
        cases result with
        | ok value => exact Keeps.pure value
        | error failure =>
          dsimp only
          split
          · exact sessionLost_keeps _ place
          · exact stepFailed_keeps _ place failure
    · exact stepFailed_keeps _ place failure

theorem meets_keeps (context : RunContext) (place : Place) (condition : Option Condition) :
    Keeps kind (meets context place condition) := by
  cases condition with
  | none => exact Keeps.pure true
  | some condition =>
    exact guarded_keeps trials place fun session => holds_plain _ session condition

end

section

variable {kind : Request → Bool}

theorem pauseBefore_keeps (pauses : ∀ ms, kind (.sleep ms) = true) (loop : Loop) (first : Bool) :
    Keeps kind (pauseBefore loop first) := by
  unfold pauseBefore
  split
  · exact Keeps.request (.sleep _) (pauses _)
  · exact Keeps.pure ()

theorem pauseAfter_keeps (pauses : ∀ ms, kind (.sleep ms) = true) (settings : Settings)
    (rest : List Step) : Keeps kind (pauseAfter settings rest) := by
  unfold pauseAfter
  split
  · exact Keeps.request (.sleep _) (pauses _)
  · exact Keeps.pure ()

theorem completed_keeps (reports : ∀ event, kind (.progress event) = true) (context : RunContext)
    (place : Place) : Keeps kind (completed context place) :=
  Keeps.modify_bind (fun _ => rfl) (Keeps.get_bind fun _ => Keeps.request (.progress _) (reports _))

end

/-! ## The interpreter -/

theorem asks_goes {behalf : Option Activation} {piece : Running α} {before after : RunState}
    {account : Account} {outcome : Except RunError α} :
    Goes (Noted.asks behalf piece) before account outcome after ↔
      ∃ log : Log, Goes piece before log outcome after ∧ account = log.noted behalf := by
  refine Program.Transcript.interpret_iff.trans ?_
  simp only [Note.carries_ask_iff]
  rfl

/-- A piece of a run that keeps to requests that leave the standing as it is. -/
theorem asks_heeds {kind : Request → Bool} {behalf : Option Activation} {piece : Running α}
    {top : Nat} {here : Activation} (keeps : Keeps kind piece)
    (still : ∀ request answer, kind request = true →
      Moves (within (some here)) ⟨.asks behalf request, answer⟩ (within (some here))) :
    Heeds (At top (.within (some here))) (Noted.asks behalf piece)
      fun _ => At top (.within (some here)) := by
  rintro before _ account outcome after ⟨index, rfl⟩ run
  obtain ⟨log, piece, rfl⟩ := asks_goes.mp run
  obtain ⟨only, stays, other⟩ := keeps before log outcome after piece
  refine ⟨_, .noted fun entry member => still _ _ (only entry member), ?_⟩
  cases outcome with
  | ok value => exact ⟨stays.trans index, rfl⟩
  | error error =>
    cases error with
    | cancelled index => exact absurd rfl (other index)
    | stepFailed | sessionLost | setup => exact ⟨here, rfl⟩

/-- Work for the last thing begun. -/
theorem works_heeds {piece : Running α} {top : Nat} {here : Activation}
    (keeps : Keeps Request.isWork piece) :
    Heeds (At top (.within (some here))) (Noted.asks (some here) piece)
      fun _ => At top (.within (some here)) :=
  asks_heeds keeps fun _ _ => .works

/-- What is done between activations. -/
theorem passes_heeds {piece : Running α} {top : Nat} (keeps : Keeps Request.isAside piece) :
    Heeds (Inside top) (Noted.asks none piece) fun _ => Inside top := by
  rintro before start account outcome after ⟨index, here, rfl, inTop⟩ run
  have asked : Heeds (At top (.within (some here))) (Noted.asks none piece) fun _ => Inside top :=
    (asks_heeds keeps fun _ _ => .passes).weaken (fun _ _ => id) fun _ _ _ => At.inside inTop
  exact asked before _ account outcome after ⟨index, rfl⟩ run

theorem iterate_heeds {context : RunContext} {place : Place} {loop : Loop} {top : Nat}
    {body : Activation → Noting Unit} (inTop : place.path.head? = some top)
    (heeds : ∀ activation : Activation, activation.top? = some top →
      Heeds (At top (.within (some activation))) (body activation) fun _ => Inside top)
    (number left : Nat) :
    Heeds (Inside top) (Noted.iterate context place loop body number left)
      fun _ => Inside top := by
  induction left generalizing number with
  | zero => exact Heeds.pure fun _ _ => id
  | succ left induction =>
    have here : (Activation.iteration place.path number).top? = some top := inTop
    refine (passes_heeds (pauseBefore_keeps (fun _ => rfl) loop _)).bind fun _ => ?_
    refine (wanted_heeds here).bind fun _ => (begins_heeds top _).bind fun _ => ?_
    refine (works_heeds (meets_keeps work_of_trial context place loop.condition)).bind fun met => ?_
    cases met with
    | true => exact (heeds _ here).bind fun _ => induction (number + 1)
    | false => exact Heeds.pure fun _ _ => At.inside here

mutual

/-- A step that may be begun makes only moves that are allowed. -/
theorem step_heeds (context : RunContext) {path : StepPath} {top : Nat}
    (inTop : path.head? = some top) :
    (step : Step) → Heeds (At top (.cleared (.step path))) (Noted.step context path step)
      fun _ => Inside top
  | .mk action condition loop timeoutMs source => by
    have body : ∀ activation : Activation, activation.top? = some top →
        Heeds (At top (.within (some activation)))
          (Noted.action context ⟨path, action.kind⟩ (limit context timeoutMs) activation action)
          fun _ => Inside top :=
      fun activation within => action_heeds context inTop _ within action
    have ends : Heeds (Inside top) (Noted.asks none (completed context ⟨path, action.kind⟩))
        fun _ => Inside top := passes_heeds (completed_keeps (fun _ => rfl) context _)
    have here : (Activation.step path).top? = some top := inTop
    rw [Noted.step]
    refine (begins_heeds top _).bind fun _ => ?_
    refine (works_heeds (meets_keeps work_of_trial context _ condition)).bind fun met => ?_
    cases met with
    | true =>
      cases loop with
      | none => exact (body _ here).bind fun _ => ends
      | some loop =>
        refine Heeds.bind ?_ fun _ => ends
        exact (iterate_heeds inTop body 0 _).weaken (fun _ _ => At.inside here) fun _ _ _ => id
    | false => exact Heeds.pure fun _ _ => At.inside here

theorem action_heeds (context : RunContext) {place : Place} {top : Nat}
    (inTop : place.path.head? = some top) (timeout : Nat) {activation : Activation}
    (within : activation.top? = some top) :
    (action : Action) → Heeds (At top (.within (some activation)))
      (Noted.action context place timeout activation action) fun _ => Inside top
  | .steps children =>
    (children_heeds context inTop 0 children).weaken (fun _ _ => At.inside within) fun _ _ _ => id
  | .navigate _ | .click _ | .type _ _ | .hover _ | .scroll _ | .waitForElement _ _
  | .waitForExpression _ | .setViewport _ | .key _ _ =>
    (works_heeds (guarded_keeps work_of_trial place fun session =>
      perform_plain _ session timeout _)).weaken
      (fun _ _ => id) fun _ _ _ => At.inside within

theorem children_heeds (context : RunContext) {path : StepPath} {top : Nat}
    (inTop : path.head? = some top) (index : Nat) :
    (children : List Step) → Heeds (Inside top) (Noted.children context path index children)
      fun _ => Inside top
  | [] => Heeds.pure fun _ _ => id
  | child :: rest => by
    have nested : (path ++ [index]).head? = some top := by
      rw [List.head?_append, inTop]
      rfl
    have here : (Activation.step (path ++ [index])).top? = some top := nested
    have first := step_heeds context nested child
    have others := children_heeds context inTop (index + 1) rest
    exact (wanted_heeds here).bind fun _ => first.bind fun _ => others

end

/-- Top-level steps make only moves that are allowed, one index after the other. -/
theorem steps_heeds (context : RunContext) (index : Nat) (steps : List Step) :
    Heeds (fun _ => Awaits (.step [index])) (Noted.steps context index steps)
      fun _ _ => Begun := by
  induction steps generalizing index with
  | nil =>
    refine Heeds.pure ?_
    rintro _ _ ⟨here, same, _⟩
    exact ⟨here, same⟩
  | cons step rest induction =>
    rw [Noted.steps]
    have asked : Heeds (fun _ => Awaits (.step [index])) (Noted.checks (.step [index]))
        fun stopped _ standing => standing = answered (.step [index]) stopped :=
      (checks_heeds (.step [index]) fun _ => True).weaken (fun _ _ awaits => ⟨trivial, awaits⟩)
        fun _ _ _ reached => reached.2
    refine asked.bind fun stopped => ?_
    cases stopped with
    | true =>
      have ends : Heeds (fun _ standing => standing = answered (.step [index]) true)
          (throw (.cancelled index) : Noting PUnit) fun _ _ _ => False := by
        refine Heeds.throw ?_
        rintro _ _ rfl
        exact ⟨_, rfl, rfl⟩
      refine ends.bind fun _ => ?_
      rintro _ _ _ _ _ ⟨⟩
    | false =>
      have enters : ∀ (state : RunState) standing, standing = answered (.step [index]) false →
          At index (.cleared (.step [index])) { state with index } standing :=
        fun _ _ reached => ⟨rfl, reached⟩
      refine Heeds.modify_bind enters ?_
      cases (step.fill context.vars).1 with
      | error error =>
        refine ((begins_heeds index _).bind fun _ => works_heeds (stepFailed_keeps _ _ _)).weaken
          (fun _ _ => id) fun _ _ _ holds => ⟨_, holds.2⟩
      | ok filled =>
        refine (step_heeds context rfl filled).bind fun _ => ?_
        refine (passes_heeds (pauseAfter_keeps (fun _ => rfl) _ rest)).bind fun _ => ?_
        refine (induction (index + 1)).weaken ?_ fun _ _ _ => id
        rintro _ _ ⟨_, here, same, inTop⟩
        exact ⟨here, same, Activation.next_follows inTop⟩

/-! ## The whole run -/

/-- What the report of a run says of where it stands. -/
def Standing.Told (result : RunResult) : Standing → Prop
  | stopped next =>
    result.code = .cancelled ∧ result.stepIndex = some next.index.toUInt64 ∧
      result.stepPath = none ∧ result.stepKind = none
  | within (some _) => result.code ≠ .cancelled
  | _ => False

theorem report_told {outcome : Except RunError Unit} {standing : Standing} (target : String)
    (executed took : Nat) (ends : Ends (fun _ => Begun) outcome standing) :
    standing.Told (RunResult.report target outcome executed took) := by
  cases outcome with
  | ok value =>
    obtain ⟨here, rfl⟩ := ends
    exact fun same => by cases same
  | error error =>
    cases error with
    | cancelled index =>
      obtain ⟨next, rfl, rfl⟩ := ends
      exact ⟨rfl, rfl, rfl, rfl⟩
    | stepFailed index path kind cause =>
      obtain ⟨here, rfl⟩ := ends
      cases cause <;> exact fun same => by cases same
    | sessionLost index path kind | setup reason =>
      obtain ⟨here, rfl⟩ := ends
      exact fun same => by cases same

/-- On its way out a run stands where it is. -/
theorem Standing.Told.still {result : RunResult} {standing : Standing} (told : standing.Told result)
    {request : Request} {answer : request.Answer} (leaving : request.isLeaving = true) :
    Moves standing ⟨.asks none request, answer⟩ standing := by
  match standing, told with
  | .stopped next, _ => exact .leaves leaving
  | .within (some here), _ =>
    refine .passes ?_
    cases request <;> first | rfl | exact leaving

theorem part_only {kind : Request → Bool} {target : String}
    (detaches : kind (.detach target) = true) (wanted : Bool) :
    Only kind (part target wanted) := by
  intro log result run
  cases wanted with
  | false =>
    obtain ⟨rfl, _⟩ := Program.Transcript.pure_iff.mp run
    exact fun _ member => absurd member List.not_mem_nil
  | true =>
    obtain ⟨answer, opening, rest, asked, finish, rfl⟩ := Program.Transcript.bind_iff.mp run
    obtain ⟨rfl, _⟩ := Program.Transcript.pure_iff.mp finish
    rw [List.append_nil]
    exact Only.request (.detach target) detaches opening answer asked

/-- There are only requests on the way out. -/
def Account.Leaves (account : Account) : Prop :=
  ∀ entry ∈ account, ∃ request answer, entry = ⟨.asks none request, answer⟩ ∧
    request.isLeaving = true

theorem Account.Leaves.append {first second : Account} (early : first.Leaves)
    (late : second.Leaves) : Leaves (first ++ second) :=
  List.forall_mem_append.mpr ⟨early, late⟩

theorem Only.account_leaves {program : RunProgram α} {account : Account} {value : α}
    (only : Only Request.isLeaving program)
    (run : Program.Transcript (program.interpret (Note.ask none)) account value) :
    account.Leaves := by
  obtain ⟨log, asked, carries⟩ := Program.Transcript.interpret_iff.mp run
  obtain rfl := Note.carries_ask_iff.mp carries
  intro entry member
  obtain ⟨made, inLog, rfl⟩ := List.mem_map.mp member
  exact ⟨_, _, rfl, only log value asked made inLog⟩

theorem Account.Leaves.leads {account : Account} {standing : Standing} (leaves : account.Leaves)
    (still : ∀ (request : Request) (answer : request.Answer), request.isLeaving = true →
      Moves standing ⟨.asks none request, answer⟩ standing) : Leads standing account standing := by
  induction account with
  | nil => exact .stays
  | cons entry account induction =>
    obtain ⟨⟨request, answer, rfl, leaving⟩, later⟩ := List.forall_mem_cons.mp leaves
    exact .moves (still request answer leaving) (induction later)

/-- What a run does once it has its turn, and what comes of it. -/
inductive Noted.Attaches (settings : Settings) (program : Script) (vars : Variables)
    (target : String) : Account → Except RunError Unit × Nat × Bool → Prop
  | stopped : Attaches settings program vars target [⟨.checks .whole, true⟩]
      (.error (.cancelled 0), 0, true)
  | refused (error : PageError) : Attaches settings program vars target
      [⟨.checks .whole, false⟩, ⟨.begins .whole, ()⟩,
        ⟨.asks (some .whole) (.attach target), .error error⟩]
      (.error (.setup error.message), 0, true)
  | attached {session : SessionHandle} {account : Account} {outcome : Except RunError Unit}
      {state : RunState}
      (run : Goes (Noted.steps ⟨program.id, vars, settings⟩ 0 program.steps) ⟨session, 0, 0⟩
        account outcome state) :
      Attaches settings program vars target
        (⟨.checks .whole, false⟩ :: ⟨.begins .whole, ()⟩ ::
          ⟨.asks (some .whole) (.attach target), .ok session⟩ :: account)
        (outcome, state.executed, session.keepAlive)

theorem Noted.attaches_of_run {settings : Settings} {program : Script} {vars : Variables}
    {target : String} {account : Account} {ended : Except RunError Unit × Nat × Bool}
    (run : Program.Transcript (Noted.attachAndRun settings program vars target) account ended) :
    Noted.Attaches settings program vars target account ended := by
  obtain ⟨stopped, _, _, asked, onward, rfl⟩ := Program.Transcript.bind_iff.mp run
  obtain rfl := Program.Transcript.request_iff.mp asked
  cases stopped with
  | true =>
    obtain ⟨rfl, rfl⟩ := Program.Transcript.pure_iff.mp onward
    exact .stopped
  | false =>
    obtain ⟨_, _, _, began, further, rfl⟩ := Program.Transcript.bind_iff.mp onward
    obtain rfl := Program.Transcript.request_iff.mp began
    obtain ⟨answer, _, _, attached, rest, rfl⟩ := Program.Transcript.bind_iff.mp further
    obtain rfl := Program.Transcript.request_iff.mp attached
    cases answer with
    | error error =>
      obtain ⟨rfl, rfl⟩ := Program.Transcript.pure_iff.mp rest
      exact .refused error
    | ok session =>
      obtain ⟨⟨outcome, state⟩, _, _, steps, finish, rfl⟩ := Program.Transcript.bind_iff.mp rest
      obtain ⟨rfl, rfl⟩ := Program.Transcript.pure_iff.mp finish
      rw [List.append_nil]
      exact .attached steps

/-- A run waits for its turn, makes its attempt, and leaves. -/
theorem Noted.script_parts {settings : Settings} {program : Script} {overrides : Variables}
    {options : RunOptions} {account : Account} {result : RunResult}
    (run : Program.Transcript (Noted.script settings program overrides options) account result) :
    ∃ (started : Nat) (attempt leaving : Account) (outcome : Except RunError Unit)
      (executed : Nat) (keep : Bool) (took : Nat),
      account = ⟨.asks none .now, started⟩ :: ⟨.asks none (.acquire options.target), ()⟩ ::
        (attempt ++ leaving) ∧
      Noted.Attaches settings program (program.parameters.merge overrides) options.target attempt
        (outcome, executed, keep) ∧
      leaving.Leaves ∧ result = .report options.target outcome executed took := by
  obtain ⟨started, _, _, begun, waits, rfl⟩ := Program.Transcript.bind_iff.mp run
  obtain rfl := Program.Transcript.request_iff.mp begun
  obtain ⟨_, _, _, entered, turn, rfl⟩ := Program.Transcript.bind_iff.mp waits
  obtain rfl := Program.Transcript.request_iff.mp entered
  obtain ⟨⟨outcome, executed, keep⟩, work, _, attempt, leaving, rfl⟩ :=
    Program.Transcript.bind_iff.mp turn
  obtain ⟨_, _, _, parted, freeing, rfl⟩ := Program.Transcript.bind_iff.mp leaving
  obtain ⟨_, _, _, released, ending, rfl⟩ := Program.Transcript.bind_iff.mp freeing
  obtain ⟨ended, _, _, told, reporting, rfl⟩ := Program.Transcript.bind_iff.mp ending
  obtain ⟨rfl, rfl⟩ := Program.Transcript.pure_iff.mp reporting
  have nothing : Account.Leaves [] := fun _ member => absurd member List.not_mem_nil
  have parts := (part_only rfl _).account_leaves parted
  have releases := (Only.request (.release options.target) rfl).account_leaves released
  have looks := (Only.request .now rfl).account_leaves told
  exact ⟨started, work, _, outcome, executed, keep, ended - started, rfl,
    Noted.attaches_of_run attempt, parts.append (releases.append (looks.append nothing)), rfl⟩

theorem attachAndRun_stands {settings : Settings} {program : Script} {vars : Variables}
    {target : String} {account : Account} {outcome : Except RunError Unit} {executed : Nat}
    {keep : Bool}
    (attaches : Noted.Attaches settings program vars target account (outcome, executed, keep)) :
    ∃ standing, Leads (within none) account standing ∧
      Ends (fun _ => Begun) outcome standing := by
  cases attaches with
  | stopped => exact ⟨_, .moves (.stops rfl) .stays, .whole, rfl, rfl⟩
  | refused error =>
    exact ⟨_, .moves (.clears rfl) (.moves .begins (.moves (.works rfl) .stays)), .whole, rfl⟩
  | attached run =>
    obtain ⟨standing, leads, ends⟩ :=
      steps_heeds _ 0 program.steps _ _ _ _ _ ⟨.whole, rfl, rfl⟩ run
    exact ⟨standing, .moves (.clears rfl) (.moves .begins (.moves (.works rfl) leads)), ends⟩

/-- A whole run makes only moves that are allowed, and reports where it ended up standing. -/
theorem script_stands {settings : Settings} {program : Script} {overrides : Variables}
    {options : RunOptions} {account : Account} {result : RunResult}
    (run : Program.Transcript (Noted.script settings program overrides options) account result) :
    ∃ standing, Leads queued account standing ∧ standing.Told result := by
  obtain ⟨started, attempt, leaving, outcome, executed, keep, took, rfl, attaches, leaves, rfl⟩ :=
    Noted.script_parts run
  obtain ⟨standing, leads, ends⟩ := attachAndRun_stands attaches
  have reported := report_told options.target executed took ends
  have parts : Leads standing leaving standing := leaves.leads fun _ _ => reported.still
  exact ⟨standing, .moves .queues (.moves .enters (leads.then parts)), reported⟩

end BrowserScript.Run

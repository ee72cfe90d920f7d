import BrowserScript.Proofs.Run.Position
import BrowserScript.Proofs.Run.Tries

/-!
# How a run fails

Steps fail because an operation of one of them is not done, or because the texts of one cannot be
filled. The error names that step, nothing is done after that operation, and of the step and those
around it none is completed. Main definitions: `Run.Undone`, `Run.Halts`, `Run.Faulty`,
`Run.Reports`. Main results: `Run.guarded_fails`, `Run.steps_report`.
-/

set_option autoImplicit false

namespace BrowserScript.Run

open Running

variable {α β : Type}

/-! ## Failing operations -/

/-- A task is tried on the session of the run, and once more on a recovered one if the first is
gone, and it is not done. -/
inductive Undone (settings : Settings) (task : Task) (session : SessionHandle) :
    Log → Verdict → Prop
  | atOnce {log : Log} {cause : StepFailure}
      (tried : Program.Transcript (task.program settings session.sessionId).run log (.error cause))
      (other : ¬ cause.isDetach = true) : Undone settings task session log (.fails cause)
  | unrecovered {log : Log} {cause : StepFailure}
      (tried : Program.Transcript (task.program settings session.sessionId).run log (.error cause))
      (gone : cause.isDetach = true) :
      Undone settings task session (log ++ [⟨.recover session, (none : Option SessionHandle)⟩])
        .loses
  | again {log later : Log} {lost cause : StepFailure} {handle : SessionHandle}
      (tried : Program.Transcript (task.program settings session.sessionId).run log (.error lost))
      (gone : lost.isDetach = true)
      (retried : Program.Transcript (task.program settings handle.sessionId).run later
        (.error cause)) :
      Undone settings task session
        (log ++ ⟨.recover session, (some handle : Option SessionHandle)⟩ :: later)
        (.ofTry (some cause))

theorem Task.plain (settings : Settings) (session : String) (task : Task) :
    Plain (task.program settings session) := by
  cases task with
  | checks check condition => exact holds_plain _ session condition
  | performs timeout action => exact perform_plain settings session timeout action

theorem Undone.trials {settings : Settings} {task : Task} {session : SessionHandle} {log : Log}
    {verdict : Verdict} (undone : Undone settings task session log verdict) :
    ∀ entry ∈ log, entry.request.isTrial = true := by
  have tries : ∀ (session : String) (log : Log) outcome,
      Program.Transcript (task.program settings session).run log outcome →
        ∀ entry ∈ log, entry.request.isTrial = true := fun session log outcome tried entry member =>
    trial_of_stepwise ((task.plain settings session log outcome tried).1 entry member)
  cases undone with
  | atOnce tried => exact tries _ _ _ tried
  | unrecovered tried =>
    exact List.forall_mem_append.mpr ⟨tries _ _ _ tried, List.forall_mem_singleton.mpr rfl⟩
  | again tried gone retried =>
    exact List.forall_mem_append.mpr
      ⟨tries _ _ _ tried, List.forall_mem_cons.mpr ⟨rfl, tries _ _ _ retried⟩⟩

theorem lost_goes {place : Place} {before after : RunState} {log : Log}
    {outcome : Except RunError α} :
    Goes (sessionLost place : Running α) before log outcome after ↔
      log = [] ∧ outcome = .error (.sessionLost before.index place.path.text place.kind) ∧
        after = before :=
  Goes.get_bind_iff.trans Goes.throw_iff

theorem guarded_fails {settings : Settings} {task : Task} {place : Place} {before after : RunState}
    {log : Log} {error : RunError}
    (run : Goes (guarded place fun session => task.program settings session) before log
      (.error error) after) :
    ∃ verdict, Undone settings task before.session log verdict ∧
      verdict.error? before.index place = some error := by
  unfold guarded at run
  obtain ⟨outcome, opening, rest, tried, onward, rfl⟩ :=
    Goes.ask_bind_iff.mp (Goes.get_bind_iff.mp run)
  cases outcome with
  | ok value =>
    obtain ⟨_, same, _⟩ := Goes.pure_iff.mp onward
    cases same
  | error cause =>
    dsimp only at onward
    split at onward
    · next gone =>
      obtain ⟨answer, asked, later, recovered, second, rfl⟩ :=
        Goes.ask_bind_iff.mp (Goes.get_bind_iff.mp onward)
      obtain rfl := Program.Transcript.request_iff.mp recovered
      cases answer with
      | none =>
        obtain ⟨rfl, same, rfl⟩ := lost_goes.mp second
        cases same
        exact ⟨_, .unrecovered tried gone, rfl⟩
      | some handle =>
        obtain ⟨outcome, closing, rest, retried, ending, rfl⟩ :=
          Goes.ask_bind_iff.mp (Goes.modify_bind_iff.mp second)
        cases outcome with
        | ok value =>
          obtain ⟨_, same, _⟩ := Goes.pure_iff.mp ending
          cases same
        | error cause =>
          have undone := Undone.again tried gone retried
          dsimp only at ending
          split at ending
          · next goneToo =>
            obtain ⟨rfl, same, rfl⟩ := lost_goes.mp ending
            cases same
            rw [List.append_nil]
            exact ⟨_, undone, error?_of_gone goneToo _ _⟩
          · next other =>
            obtain ⟨rfl, same, rfl⟩ := failed_goes.mp ending
            cases same
            rw [List.append_nil]
            exact ⟨_, undone, error?_of_other other _ _⟩
    · next other =>
      obtain ⟨rfl, same, rfl⟩ := failed_goes.mp onward
      cases same
      rw [List.append_nil]
      exact ⟨_, .atOnce tried other, rfl⟩

/-- What is tried for a step. -/
inductive Concerns (context : RunContext) (step : Step) : Task → Prop
  | condition {condition : Condition} (own : step.condition = some condition) :
      Concerns context step (.checks .ofStep condition)
  | loop {loop : Loop} {condition : Condition} (own : step.loop = some loop)
      (checked : loop.condition = some condition) :
      Concerns context step (.checks .ofLoop condition)
  | action (leaf : ∀ children, step.action ≠ .steps children) :
      Concerns context step (.performs (limit context step.timeoutMs) step.action)

/-- A step of this kind, at this path, ends the run, with these exchanges last. -/
inductive Halts (context : RunContext) (steps : List Step) :
    StepPath → StepKind → Log → Verdict → Prop
  | operation {path : StepPath} {step : Step} {task : Task} {session : SessionHandle} {log : Log}
      {verdict : Verdict} (runs : running? context.vars steps path = some step)
      (own : Concerns context step task)
      (undone : Undone context.settings task session log verdict) :
      Halts context steps path step.kind log verdict
  | unfilled {index : Nat} {step : Step} {error : Json.ReadError}
      (written : steps[index]? = some step) (unread : (step.fill context.vars).1 = .error error) :
      Halts context steps [index] step.kind [] (.fails (.invalid error.message))

theorem Halts.trials {context : RunContext} {steps : List Step} {path : StepPath} {kind : StepKind}
    {log : Log} {verdict : Verdict} (halts : Halts context steps path kind log verdict) :
    ∀ entry ∈ log, entry.request.isTrial = true := by
  cases halts with
  | operation runs own undone => exact undone.trials
  | unfilled written unread => exact fun _ member => absurd member List.not_mem_nil

/-! ## Where it fails -/

/-- What is done last is what fails, and the error names the step it is for. Of the steps inside the
one at the path, this one and those around it are begun and not completed. -/
inductive Faulty (context : RunContext) (steps : List Step) (base : StepPath) :
    Account → RunError → Prop
  | intro {path : StepPath} {kind : StepKind} {index : Nat} {early : Account} {here : Activation}
      {log : Log} {verdict : Verdict} {error : RunError}
      (halts : Halts context steps path kind log verdict) (behalf : here.path = path)
      (onWay : base <+: path) (top : path.head? = some index)
      (known : verdict.error? index ⟨path, kind⟩ = some error)
      (unfinished : ∀ around, base.Into around → around <+: path → early.Unfinished around) :
      Faulty context steps base (early ++ log.noted (some here)) error

section

variable {context : RunContext} {steps : List Step} {base : StepPath} {account : Account}
  {error : RunError}

theorem Faulty.prepend (faulty : Faulty context steps base account error) (opening : Account) :
    Faulty context steps base (opening ++ account) error := by
  cases faulty with
  | intro halts behalf onWay top known unfinished =>
    rw [← List.append_assoc]
    exact .intro halts behalf onWay top known fun around into prefixed =>
      (unfinished around into prefixed).prepend opening

/-- What fails inside a step that has just been begun leaves that step unfinished as well. -/
theorem Faulty.enter {index : Nat} (faulty : Faulty context steps (base ++ [index]) account error)
    (below : account.Below (base ++ [index])) :
    Faulty context steps base (⟨.begins (.step (base ++ [index])), ()⟩ :: account) error := by
  cases faulty with
  | @intro path kind top early here log verdict _ halts behalf onWay first known unfinished =>
    have inBase : base <+: path := (List.prefix_append base [index]).trans onWay
    have spares : early.Spares (base ++ [index]) :=
      Account.Below.spares (List.forall_mem_append.mp below).1 (by simp)
    rw [← List.cons_append]
    refine .intro halts behalf inBase first known fun around into prefixed => ?_
    rcases into.nested prefixed onWay with rfl | deeper
    · exact ⟨[], early, rfl, spares⟩
    · exact (unfinished around deeper prefixed).prepend [_]

end

/-- A piece of a run in which a step is under way begins and completes only steps inside it,
completes only what is unfinished, and if it fails, one of these steps is to blame. -/
structure Located (context : RunContext) (steps : List Step) (base : StepPath) (account : Account)
    (outcome : Except RunError α) : Prop where
  below : account.Below base
  closes : account.Closes
  blames : ∀ error, outcome = .error error →
    (∃ index, error = .cancelled index) ∨ Faulty context steps base account error

/-- However it is answered, a piece of a run is located in the step at the path. -/
def Reports (context : RunContext) (steps : List Step) (base : StepPath)
    (first : RunState → Prop) (piece : Noting α) (last : RunState → Prop) : Prop :=
  ∀ before account outcome after, first before → Goes piece before account outcome after →
    Located context steps base account outcome ∧ ∀ value, outcome = .ok value → last after

namespace Reports

variable {context : RunContext} {steps : List Step} {base : StepPath}
  {first middle last : RunState → Prop}

theorem pure (value : α) (here : ∀ state, first state → last state) :
    Reports context steps base first (Pure.pure value) last := by
  intro before account outcome after holds run
  obtain ⟨rfl, rfl, rfl⟩ := Goes.pure_iff.mp run
  exact ⟨⟨.nil, .nil, nofun⟩, fun _ _ => here _ holds⟩

theorem cancelled (index : Nat) :
    Reports context steps base first (throw (.cancelled index) : Noting α) last := by
  intro before account outcome after holds run
  obtain ⟨rfl, rfl, rfl⟩ := Goes.throw_iff.mp run
  refine ⟨⟨.nil, .nil, ?_⟩, nofun⟩
  rintro _ ⟨⟩
  exact .inl ⟨index, rfl⟩

theorem bind {piece : Noting α} {next : α → Noting β}
    (early : Reports context steps base first piece middle)
    (late : ∀ value, Reports context steps base middle (next value) last) :
    Reports context steps base first (piece >>= next) last := by
  intro before account outcome after holds run
  rcases Goes.bind_iff.mp run with
    ⟨error, failed, rfl⟩ | ⟨value, state, opening, rest, began, finish, rfl⟩
  · obtain ⟨located, -⟩ := early before account (.error error) after holds failed
    refine ⟨⟨located.below, located.closes, ?_⟩, nofun⟩
    rintro _ ⟨⟩
    exact located.blames error rfl
  · obtain ⟨begun, onward⟩ := early before opening (.ok value) state holds began
    obtain ⟨further, ends⟩ := late value state rest outcome after (onward value rfl) finish
    refine ⟨⟨begun.below.append further.below, begun.closes.append further.closes,
      fun error failed => ?_⟩, ends⟩
    rcases further.blames error failed with stopped | faulty
    · exact .inl stopped
    · exact .inr (faulty.prepend opening)

theorem cancelled_bind (index : Nat) (next : α → Noting β) :
    Reports context steps base first (throw (.cancelled index) >>= next) last :=
  let Never : RunState → Prop := fun _ => False
  have stops : Reports context steps base first (throw (.cancelled index)) Never := cancelled index
  stops.bind fun _ _ _ _ _ never => never.elim

theorem get_bind {next : RunState → Noting β}
    (rest : ∀ state, Reports context steps base first (next state) last) :
    Reports context steps base first (get >>= next) last :=
  fun before account outcome after holds run =>
    rest before before account outcome after holds (Goes.get_bind_iff.mp run)

theorem modify_bind {change : RunState → RunState} {next : PUnit → Noting β}
    (becomes : ∀ state, first state → middle (change state))
    (rest : Reports context steps base middle (next ⟨⟩) last) :
    Reports context steps base first (modify change >>= next) last :=
  fun before account outcome after holds run =>
    rest (change before) account outcome after (becomes before holds)
      (Goes.modify_bind_iff.mp run)

theorem weaken {fewer more : RunState → Prop} {piece : Noting α}
    (reports : Reports context steps base first piece last)
    (before : ∀ state, fewer state → first state) (after : ∀ state, last state → more state) :
    Reports context steps base fewer piece more := by
  intro state account outcome later holds run
  obtain ⟨located, ends⟩ := reports state account outcome later (before _ holds) run
  exact ⟨located, fun value done => after _ (ends value done)⟩

/-- A note that neither begins nor completes any step. -/
theorem note (note : Note) (below : note.Below base)
    (silent : ∀ behalf event, note ≠ .asks behalf (.progress event)) :
    Reports context steps base first (ExceptT.lift (StateT.lift (Program.request note))) first := by
  intro before account outcome after holds run
  obtain ⟨value, noted, rfl, rfl⟩ := Goes.lift_iff.mp run
  obtain rfl := Program.Transcript.request_iff.mp noted
  exact ⟨⟨List.forall_mem_singleton.mpr below, .single silent, nofun⟩, fun _ _ => holds⟩

theorem sleep (behalf : Option Activation) (ms : Nat) :
    Reports context steps base first (Noted.asks behalf (ask (sleep ms))) first := by
  have asked : Noted.asks behalf (ask (Run.sleep ms)) =
      ExceptT.lift (StateT.lift (Program.request (Note.asks behalf (.sleep ms)))) := by
    refine (carried_lift (Note.ask behalf) (Run.sleep ms)).trans ?_
    exact congrArg (fun program => ExceptT.lift (StateT.lift program))
      (Program.interpret_request (Note.ask behalf) (.sleep ms))
  rw [asked]
  exact note _ trivial nofun

end Reports

/-! ## Pieces of a step -/

section

variable {context : RunContext} {steps : List Step} {path : StepPath} {top : Nat} {step : Step}
  {here : Activation}

/-- The run is in this top-level step. -/
def In (top : Nat) (state : RunState) : Prop := state.index = top

theorem pauseBefore_report (loop : Loop) (start : Bool) :
    Reports context steps path (In top) (Noted.asks none (pauseBefore loop start)) (In top) := by
  unfold pauseBefore
  split
  · exact Reports.sleep none _
  · exact Reports.pure () fun _ => id

theorem pauseAfter_report (settings : Settings) (rest : List Step) :
    Reports context steps path (In top) (Noted.asks none (pauseAfter settings rest)) (In top) := by
  unfold pauseAfter
  split
  · exact Reports.sleep none _
  · exact Reports.pure () fun _ => id

theorem checks_report (next : Activation) (holds : RunState → Prop) :
    Reports context steps path holds (Noted.checks next) holds :=
  Reports.note (.checks next) trivial nofun

theorem wanted_report (next : Activation) :
    Reports context steps path (In top) (Noted.wanted next) (In top) := by
  refine (checks_report next _).bind fun stopped => ?_
  cases stopped with
  | true => exact Reports.get_bind fun state => Reports.cancelled state.index
  | false => exact Reports.pure () fun _ => id

theorem begins_iteration_report (number : Nat) :
    Reports context steps path (In top) (Noted.begins (.iteration path number)) (In top) :=
  Reports.note (.begins (.iteration path number)) trivial nofun

theorem trial_below {request : Request} (behalf : Option Activation)
    (trial : request.isTrial = true) : (Note.asks behalf request).Below path := by
  cases request <;> trivial

theorem noted_trials {log : Log} {behalf : Option Activation}
    (trials : ∀ entry ∈ log, entry.request.isTrial = true) :
    ∀ entry ∈ log.noted behalf, ∃ request : Request, request.isTrial = true ∧
      entry.request = .asks behalf request := by
  intro entry member
  obtain ⟨made, inLog, rfl⟩ := List.mem_map.mp member
  exact ⟨made.request, trials made inLog, rfl⟩

/-- If a task of a step is not done, that step is to blame. -/
theorem guarded_report (task : Task) (runs : running? context.vars steps path = some step)
    (inTop : path.head? = some top) (own : Concerns context step task) (behalf : here.path = path) :
    Reports context steps path (In top)
      (Noted.asks (some here)
        (guarded ⟨path, step.kind⟩ fun session => task.program context.settings session))
      (In top) := by
  intro before account outcome after holds run
  obtain ⟨log, tried, rfl⟩ := asks_goes.mp run
  obtain ⟨only, stays, other⟩ :=
    guarded_keeps (fun _ => id) ⟨path, step.kind⟩ (fun session => task.plain _ session)
      before log outcome after tried
  have noted : ∀ entry ∈ log.noted (some here), _ := noted_trials only
  refine ⟨⟨fun entry member => ?_, .silent fun entry member behalf event told => ?_,
    fun error failed => .inr ?_⟩, fun _ _ => stays.trans holds⟩
  · obtain ⟨request, trial, same⟩ := noted entry member
    rw [same]
    exact trial_below _ trial
  · obtain ⟨request, trial, same⟩ := noted entry member
    cases same.symm.trans told
    cases trial
  · subst failed
    obtain ⟨verdict, undone, known⟩ := guarded_fails tried
    rw [holds] at known
    rw [← List.nil_append (log.noted (some here))]
    refine .intro (.operation runs own undone) behalf (List.prefix_refl path) inTop known
      fun around into prefixed => ?_
    -- nothing lies strictly between the step and itself
    obtain ⟨next, rest, rfl⟩ := into
    simpa using prefixed.length_le

theorem meets_report {condition : Option Condition} {check : Check}
    (runs : running? context.vars steps path = some step) (inTop : path.head? = some top)
    (behalf : here.path = path)
    (own : ∀ checked, condition = some checked → Concerns context step (.checks check checked)) :
    Reports context steps path (In top)
      (Noted.asks (some here) (meets context ⟨path, step.kind⟩ condition)) (In top) := by
  cases condition with
  | none => exact Reports.pure true fun _ => id
  | some condition =>
    exact guarded_report (.checks check condition) runs inTop (own condition rfl) behalf

theorem iterate_report {loop : Loop} {body : Activation → Noting Unit}
    (runs : running? context.vars steps path = some step) (inTop : path.head? = some top)
    (own : step.loop = some loop)
    (once : ∀ here : Activation, here.path = path →
      Reports context steps path (In top) (body here) (In top)) (number left : Nat) :
    Reports context steps path (In top)
      (Noted.iterate context ⟨path, step.kind⟩ loop body number left) (In top) := by
  induction left generalizing number with
  | zero => exact Reports.pure () fun _ => id
  | succ left induction =>
    refine (pauseBefore_report loop _).bind fun _ => (wanted_report _).bind fun _ => ?_
    refine (begins_iteration_report number).bind fun _ => ?_
    refine (meets_report runs inTop rfl fun _ => .loop own).bind fun met => ?_
    cases met with
    | true => exact (once _ rfl).bind fun _ => induction (number + 1)
    | false => exact Reports.pure () fun _ => id

end

/-! ## The interpreter -/

/-- What a noted step does between its beginning and its completion, and whether it is complete
then. -/
def Noted.inside (context : RunContext) (path : StepPath) : Step → Noting Bool
  | .mk action condition loop timeoutMs _ => do
    let place : Place := ⟨path, action.kind⟩
    if ← asks (some (.step path)) (meets context place condition) then
      let body (activation : Activation) : Noting Unit :=
        Noted.action context place (limit context timeoutMs) activation action
      match loop with
      | none => body (.step path)
      | some loop => iterate context place loop body 0 loop.iterations.toNat
      return true
    else return false

theorem Noted.step_eq (context : RunContext) (path : StepPath) (step : Step) :
    Noted.step context path step = (do
      Noted.begins (.step path)
      if ← Noted.inside context path step then
        Noted.asks none (completed context ⟨path, step.kind⟩)) := by
  obtain ⟨action, condition, loop, timeoutMs, source⟩ := step
  rw [Noted.step, Noted.inside]
  simp only [bind_assoc]
  refine congrArg (bind _) (funext fun _ => congrArg (bind _) (funext fun met => ?_))
  cases met with
  | true =>
    cases loop with
    | none => simp only [if_true, bind_assoc, pure_bind]; rfl
    | some loop => simp only [if_true, bind_assoc, pure_bind]; rfl
  | false => rfl

theorem completed_goes {context : RunContext} {place : Place} {before after : RunState} {log : Log}
    {outcome : Except RunError Unit}
    (run : Goes (completed context place) before log outcome after) :
    (∃ event : ProgressEvent, event.path = place.path.text ∧ log = [⟨.progress event, ()⟩]) ∧
      outcome = .ok () ∧ after.index = before.index := by
  unfold completed at run
  rw [Goes.modify_bind_iff, Goes.get_bind_iff, Goes.ask_iff] at run
  obtain ⟨_, asked, rfl, rfl⟩ := run
  obtain rfl := Program.Transcript.request_iff.mp asked
  exact ⟨⟨_, rfl, rfl⟩, rfl, rfl⟩

section

variable {context : RunContext} {steps : List Step} {base : StepPath} {index top : Nat}
  {step : Step}

/-- A step that is located in itself is located in the one around it. -/
theorem step_report_of_inside
    (inside : Reports context steps (base ++ [index]) (In top)
      (Noted.inside context (base ++ [index]) step) (In top)) :
    Reports context steps base (In top) (Noted.step context (base ++ [index]) step) (In top) := by
  intro before account outcome after holds run
  rw [Noted.step_eq] at run
  rcases Goes.bind_iff.mp run with ⟨error, failed, -⟩ | ⟨_, _, _, rest, begun, onward, rfl⟩
  · obtain ⟨_, _, same, _⟩ := Goes.lift_iff.mp failed
    cases same
  obtain ⟨_, noted, _, rfl⟩ := Goes.lift_iff.mp begun
  obtain rfl := Program.Transcript.request_iff.mp noted
  have begins : Account.Below base [⟨.begins (.step (base ++ [index])), ()⟩] :=
    List.forall_mem_singleton.mpr ⟨index, [], rfl⟩
  have opens : Account.Closes [⟨.begins (.step (base ++ [index])), ()⟩] := .single nofun
  rcases Goes.bind_iff.mp onward with
    ⟨error, failed, rfl⟩ | ⟨complete, middle, work, closing, worked, finish, rfl⟩
  · obtain ⟨located, -⟩ := inside _ _ (.error error) after holds failed
    refine ⟨⟨begins.append located.below.outer, opens.append located.closes, ?_⟩, nofun⟩
    rintro _ ⟨⟩
    rcases located.blames error rfl with stopped | faulty
    · exact .inl stopped
    · exact .inr (faulty.enter located.below)
  · obtain ⟨located, ends⟩ := inside _ _ (.ok complete) middle holds worked
    have there : In top middle := ends complete rfl
    cases complete with
    | false =>
      obtain ⟨rfl, rfl, rfl⟩ := Goes.pure_iff.mp finish
      rw [List.append_nil]
      exact ⟨⟨begins.append located.below.outer, opens.append located.closes, nofun⟩,
        fun _ _ => there⟩
    | true =>
      obtain ⟨log, told, rfl⟩ := asks_goes.mp finish
      obtain ⟨⟨event, named, rfl⟩, rfl, stays⟩ := completed_goes told
      have unfinished : Account.Unfinished
          ([⟨.begins (.step (base ++ [index])), ()⟩] ++ work) (base ++ [index]) :=
        ⟨[], work, rfl, located.below.spares (by simp)⟩
      have completes : Account.Below base (Log.noted none [⟨.progress event, ()⟩]) :=
        List.forall_mem_singleton.mpr ⟨base ++ [index], ⟨index, [], rfl⟩, named⟩
      refine ⟨⟨begins.append (located.below.outer.append completes), ?_, nofun⟩,
        fun _ _ => stays.trans there⟩
      rw [← List.append_assoc]
      exact (opens.append located.closes).complete named unfinished

end

theorem Noted.action_single_eq {action : Action} (context : RunContext) (place : Place)
    (timeout : Nat) (here : Activation) (leaf : ∀ children, action ≠ .steps children) :
    Noted.action context place timeout here action =
      Noted.asks (some here)
        (guarded place fun session => perform context.settings session timeout action) := by
  cases action with
  | steps children => exact absurd rfl (leaf children)
  | _ => rfl

section

variable {context : RunContext} {steps : List Step} {top : Nat}

theorem single_report {path : StepPath} {step : Step} {here : Activation}
    (runs : running? context.vars steps path = some step) (inTop : path.head? = some top)
    (behalf : here.path = path) (leaf : ∀ children, step.action ≠ .steps children) :
    Reports context steps path (In top)
      (Noted.action context ⟨path, step.kind⟩ (limit context step.timeoutMs) here step.action)
      (In top) := by
  rw [Noted.action_single_eq context _ _ here leaf]
  exact guarded_report (.performs _ _) runs inTop (.action leaf) behalf

mutual

/-- A step that runs at a path is located there. -/
theorem inside_report {path : StepPath} (inTop : path.head? = some top) :
    (step : Step) → running? context.vars steps path = some step →
      Reports context steps path (In top) (Noted.inside context path step) (In top)
  | .mk action condition loop timeoutMs source, runs => by
    have body : ∀ here : Activation, here.path = path → Reports context steps path (In top)
        (Noted.action context ⟨path, action.kind⟩ (limit context timeoutMs) here action) (In top) :=
      fun here behalf => action_report inTop runs behalf action rfl
    rw [Noted.inside]
    refine (meets_report runs inTop rfl fun checked own => .condition own).bind fun met => ?_
    cases met with
    | true =>
      cases loop with
      | none => exact (body _ rfl).bind fun _ => Reports.pure true fun _ => id
      | some loop =>
        exact (iterate_report runs inTop rfl body 0 _).bind fun _ => Reports.pure true fun _ => id
    | false => exact Reports.pure false fun _ => id

theorem action_report {path : StepPath} {step : Step} {here : Activation}
    (inTop : path.head? = some top) (runs : running? context.vars steps path = some step)
    (behalf : here.path = path) :
    (action : Action) → step.action = action →
      Reports context steps path (In top)
        (Noted.action context ⟨path, step.kind⟩ (limit context step.timeoutMs) here action) (In top)
  | .steps children, same => by
    have nested : ∀ offset child, children[offset]? = some child →
        running? context.vars steps (path ++ [0 + offset]) = some child := by
      intro offset child found
      rw [Nat.zero_add]
      exact running?_child runs (by rw [Step.children, same]; exact found)
    exact children_report inTop 0 children nested
  | .navigate _, same | .click _, same | .type _ _, same | .hover _, same | .scroll _, same
  | .waitForElement _ _, same | .waitForExpression _, same | .setViewport _, same
  | .key _ _, same =>
    same ▸ single_report runs inTop behalf fun _ nested => by cases same.symm.trans nested

theorem children_report {path : StepPath} (inTop : path.head? = some top) (index : Nat) :
    (children : List Step) →
      (∀ offset child, children[offset]? = some child →
        running? context.vars steps (path ++ [index + offset]) = some child) →
      Reports context steps path (In top) (Noted.children context path index children) (In top)
  | [], _ => Reports.pure () fun _ => id
  | child :: rest, run => by
    have deeper : (path ++ [index]).head? = some top := by
      rw [List.head?_append, inTop]
      rfl
    have first := inside_report deeper child (run 0 child rfl)
    have others := children_report inTop (index + 1) rest fun offset child found => by
      have later := run (offset + 1) child found
      rwa [show index + (offset + 1) = index + 1 + offset by omega] at later
    exact (wanted_report _).bind fun _ => (step_report_of_inside first).bind fun _ => others

end

end

/-- A step that cannot be filled is to blame itself. -/
theorem unfilled_report {context : RunContext} {steps : List Step} {index : Nat} {step : Step}
    {error : Json.ReadError} {last : RunState → Prop} (written : steps[index]? = some step)
    (unread : (step.fill context.vars).1 = .error error) :
    Reports context steps [] (In index)
      (do
        Noted.begins (.step [index])
        Noted.asks (some (.step [index]))
          (stepFailed ⟨[index], step.kind⟩ (.invalid error.message)) : Noting Unit) last := by
  intro before account outcome after holds run
  rcases Goes.bind_iff.mp run with ⟨error, failed, -⟩ | ⟨_, _, _, rest, begun, onward, rfl⟩
  · obtain ⟨_, _, same, _⟩ := Goes.lift_iff.mp failed
    cases same
  obtain ⟨_, noted, same, rfl⟩ := Goes.lift_iff.mp begun
  obtain rfl := Program.Transcript.request_iff.mp noted
  obtain ⟨log, failed, rfl⟩ := asks_goes.mp onward
  obtain ⟨rfl, rfl, rfl⟩ := failed_goes.mp failed
  refine ⟨⟨List.forall_mem_singleton.mpr ⟨index, [], rfl⟩, .single nofun, ?_⟩, nofun⟩
  rintro _ ⟨⟩
  rw [holds]
  refine .inr (.intro (.unfilled written unread) rfl List.nil_prefix rfl rfl ?_)
  intro around into prefixed
  obtain ⟨next, deeper, rfl⟩ := into
  obtain ⟨rfl, rfl⟩ : next = index ∧ deeper = [] := by simpa using prefixed
  exact ⟨[], [], rfl, fun _ member => absurd member List.not_mem_nil⟩

/-- Top-level steps are located in the script. -/
theorem steps_report (context : RunContext) (steps rest : List Step) (index : Nat)
    (suffix : ∀ offset, rest[offset]? = steps[index + offset]?) :
    Reports context steps [] (fun _ => True) (Noted.steps context index rest) fun _ => True := by
  induction rest generalizing index with
  | nil => exact Reports.pure () fun _ => id
  | cons step rest induction =>
    have written : steps[index]? = some step := (suffix 0).symm
    rw [Noted.steps]
    refine (checks_report _ _).bind fun stopped => ?_
    cases stopped with
    | true => exact Reports.cancelled_bind index _
    | false =>
      have enters : ∀ state : RunState, True → In index { state with index } := fun _ _ => rfl
      refine Reports.modify_bind enters ?_
      cases read : (step.fill context.vars).1 with
      | error error => exact unfilled_report written read
      | ok filled =>
        have runs : running? context.vars steps [index] = some filled := running?_top written read
        have first : Reports context steps [] (In index) (Noted.step context [index] filled)
            (In index) := step_report_of_inside (inside_report rfl filled runs)
        have onward : ∀ offset, rest[offset]? = steps[index + 1 + offset]? := fun offset => by
          rw [show index + 1 + offset = index + (offset + 1) by omega]
          exact suffix (offset + 1)
        refine first.bind fun _ => (pauseAfter_report context.settings rest).bind fun _ => ?_
        exact (induction (index + 1) onward).weaken (fun _ _ => trivial) fun _ => id

end BrowserScript.Run

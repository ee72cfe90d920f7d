import BrowserScript.Proofs.Run.Noted

/-!
# Marked runs

A run that also marks which operation it begins, on which session it tries it, and how each try
ends. The marks are requests of their own; without them the marked run is the run. Main definitions:
`Run.Operation`, `Run.Mark`, `Run.Marked.script`. Main results: `Run.Marked.script_plain`,
`Run.Marked.transcript_iff`.
-/

set_option autoImplicit false

namespace BrowserScript.Run

variable {α β : Type}

/-! ## Marks -/

/-- Whose condition is checked. -/
inductive Check where
  | ofStep
  /-- Before an iteration of the loop of a step. -/
  | ofLoop
  deriving DecidableEq, Repr

/-- What is done as a whole on one session. -/
inductive Task where
  | checks (check : Check) (condition : Condition)
  | performs (timeout : Nat) (action : Action)

namespace Task

/-- What a task is for. -/
def Value : Task → Type
  | checks _ _ => Bool
  | performs _ _ => Unit

def program (settings : Settings) (session : String) : (task : Task) → StepProgram task.Value
  | checks _ condition => holds settings.pollInterval session condition
  | performs timeout action => perform settings session timeout action

end Task

/-- A task of a step. -/
structure Operation where
  place : Place
  task : Task

/-- What a marked run does. -/
inductive Mark where
  | begins (operation : Operation)
  /-- Begins to try the operation on a session. -/
  | tries (session : SessionHandle)
  /-- The try is over, with its failure if it has failed. -/
  | ends (failure : Option StepFailure)
  | asks (request : Request)

def Mark.Answer : Mark → Type
  | begins _ | tries _ | ends _ => Unit
  | asks request => request.Answer

/-- What a marked run exchanges with its surroundings, and its marks. -/
abbrev Diary : Type := List (Program.Entry Mark Mark.Answer)

/-- A program with marks. -/
abbrev MarkedProgram (α : Type) : Type := Program Mark Mark.Answer α

/-- A piece of a run with marks. -/
abbrev Marking (α : Type) : Type := RunningOver Mark Mark.Answer α

/-- A request; a mark is none. -/
def Mark.exchange : Program.Entry Mark Mark.Answer → Log
  | ⟨.asks request, answer⟩ => [⟨request, answer⟩]
  | _ => []

/-- What a marked run exchanges with its surroundings. -/
def Diary.log (diary : Diary) : Log := diary.flatMap Mark.exchange

/-- Requests without any marks. -/
def Log.unmarked (log : Log) : Diary := log.map fun entry => ⟨.asks entry.request, entry.answer⟩

/-- The failure of a try that has failed. -/
def failure? : Except StepFailure α → Option StepFailure
  | .ok _ => none
  | .error failure => some failure

namespace Mark

def begin (operation : Operation) : MarkedProgram Unit := Program.request (begins operation)

def attempt (session : SessionHandle) : MarkedProgram Unit := Program.request (tries session)

def finish (failure : Option StepFailure) : MarkedProgram Unit := Program.request (ends failure)

def ask (request : Request) : MarkedProgram request.Answer := Program.request (asks request)

/-- A mark is left out. -/
def plain : (mark : Mark) → RunProgram mark.Answer
  | begins _ | tries _ | ends _ => return ()
  | asks request => Program.request request

theorem begin_plain (operation : Operation) : (begin operation).interpret plain = pure () :=
  Program.interpret_request plain (begins operation)

theorem attempt_plain (session : SessionHandle) : (attempt session).interpret plain = pure () :=
  Program.interpret_request plain (tries session)

theorem finish_plain (failure : Option StepFailure) :
    (finish failure).interpret plain = pure () :=
  Program.interpret_request plain (ends failure)

theorem ask_plain (request : Request) :
    (ask request).interpret plain = Program.request request :=
  Program.interpret_request plain (asks request)

theorem plain_transcript_iff (mark : Mark) (log : Log) (answer : mark.Answer) :
    Program.Transcript mark.plain log answer ↔ log = exchange ⟨mark, answer⟩ := by
  cases mark with
  | begins | tries | ends => exact Program.Transcript.pure_iff.trans (and_iff_left rfl)
  | asks request => exact Program.Transcript.request_iff

theorem carries_plain_iff {diary : Diary} {log : Log} :
    Program.Carries plain diary log ↔ diary.log = log :=
  (Program.carries_iff plain_transcript_iff).trans eq_comm

theorem carries_ask_iff {log : Log} {diary : Diary} :
    Program.Carries ask log diary ↔ diary = log.unmarked :=
  Program.carries_single_iff fun _ _ _ => Program.Transcript.request_iff

end Mark

namespace Marked

/-! ## The interpreter with marks -/

/-- Carries out a piece of a run without any marks. -/
def asks (piece : Running α) : Marking α := Running.carried Mark.ask piece

def begins (operation : Operation) : Marking Unit :=
  ExceptT.lift (StateT.lift (Mark.begin operation))

/-- Tries a program on a session. -/
def attempt (session : SessionHandle) (program : StepProgram α) :
    Marking (Except StepFailure α) :=
  ExceptT.lift (StateT.lift (do
    Mark.attempt session
    let outcome ← program.run.interpret Mark.ask
    Mark.finish (failure? outcome)
    return outcome))

/-- Tries an operation on the session of the run, and once more on a recovered session if the first
is gone. -/
def guarded (settings : Settings) (operation : Operation) : Marking operation.task.Value := do
  begins operation
  let session := (← get).session
  match ← attempt session (operation.task.program settings session.sessionId) with
  | .ok value => return value
  | .error failure =>
    if failure.isDetach then
      match ← asks (ask (recover (← get).session)) with
      | none => asks (sessionLost operation.place)
      | some session =>
        modify fun state => { state with session }
        match ← attempt session (operation.task.program settings session.sessionId) with
        | .ok value => return value
        | .error failure =>
          if failure.isDetach then asks (sessionLost operation.place)
          else asks (stepFailed operation.place failure)
    else asks (stepFailed operation.place failure)

def meets (context : RunContext) (place : Place) (check : Check) :
    Option Condition → Marking Bool
  | none => return true
  | some condition => guarded context.settings ⟨place, .checks check condition⟩

def iterate (context : RunContext) (place : Place) (loop : Loop) (body : Marking Unit) :
    (left : Nat) → (first : Bool) → Marking Unit
  | 0, _ => return ()
  | left + 1, first => do
    asks (pauseBefore loop first)
    asks checkWanted
    if ← meets context place .ofLoop loop.condition then
      body
      iterate context place loop body left false

mutual

def step (context : RunContext) (path : StepPath) : Step → Marking Unit
  | .mk action condition loop timeoutMs _ => do
    let place : Place := ⟨path, action.kind⟩
    if ← meets context place .ofStep condition then
      let body := Marked.action context place (limit context timeoutMs) action
      match loop with
      | none => body
      | some loop => iterate context place loop body loop.iterations.toNat true
      asks (completed context place)

def action (context : RunContext) (place : Place) (timeout : Nat) : Action → Marking Unit
  | .steps children => Marked.children context place.path 0 children
  | action => guarded context.settings ⟨place, .performs timeout action⟩

def children (context : RunContext) (path : StepPath) (index : Nat) : List Step → Marking Unit
  | [] => return ()
  | child :: rest => do
    asks checkWanted
    Marked.step context (path ++ [index]) child
    Marked.children context path (index + 1) rest

end

/-- Runs top-level steps from the given index on. -/
def steps (context : RunContext) (index : Nat) : List Step → Marking Unit
  | [] => return ()
  | step :: rest => do
    if ← asks (ask isCancelled) then throw (.cancelled index)
    modify fun state => { state with index }
    match (step.fill context.vars).1 with
    | .error error => asks (stepFailed ⟨[index], step.kind⟩ (.invalid error.message))
    | .ok filled =>
      Marked.step context [index] filled
      asks (pauseAfter context.settings rest)
      steps context (index + 1) rest

def attachAndRun (settings : Settings) (script : Script) (vars : Variables) (target : String) :
    MarkedProgram (Except RunError Unit × Nat × Bool) := do
  if ← isCancelled.interpret Mark.ask then return (.error (.cancelled 0), 0, true)
  else
    match ← (attach target).interpret Mark.ask with
    | .error error => return (.error (.setup error.message), 0, true)
    | .ok session =>
      let context : RunContext := ⟨script.id, vars, settings⟩
      let (outcome, state) ← ((steps context 0 script.steps).run).run ⟨session, 0, 0⟩
      return (outcome, state.executed, session.keepAlive)

/-- A whole run with marks. -/
def script (settings : Settings) (script : Script) (overrides : Variables) (options : RunOptions) :
    MarkedProgram RunResult := do
  let started ← now.interpret Mark.ask
  (acquire options.target).interpret Mark.ask
  let (outcome, executed, keep) ←
    attachAndRun settings script (script.parameters.merge overrides) options.target
  (part options.target (options.detach || !keep)).interpret Mark.ask
  (release options.target).interpret Mark.ask
  let ended ← now.interpret Mark.ask
  return RunResult.report options.target outcome executed (ended - started)

/-! ## Without its marks -/

/-- A piece of a run without its marks. -/
def plain (piece : Marking α) : Running α := Running.carried Mark.plain piece

theorem asked_plain (program : RunProgram α) :
    (program.interpret Mark.ask).interpret Mark.plain = program := by
  rw [Program.interpret_interpret]
  simp only [Mark.ask_plain]
  exact Program.interpret_self program

@[simp]
theorem plain_asks (piece : Running α) : plain (asks piece) = piece := by
  unfold plain asks
  simp only [Running.carried_carried, Mark.ask_plain]
  exact Running.carried_self piece

@[simp]
theorem plain_begins (operation : Operation) : plain (begins operation) = pure () := by
  unfold plain begins
  rw [Running.carried_lift, Mark.begin_plain]
  rfl

@[simp]
theorem plain_attempt (session : SessionHandle) (program : StepProgram α) :
    plain (attempt session program) = ask program.run := by
  unfold plain attempt ask
  rw [Running.carried_lift]
  simp only [Program.interpret_bind, Mark.attempt_plain, Mark.finish_plain, asked_plain, pure_bind]
  exact congrArg (fun program => ExceptT.lift (StateT.lift program)) (bind_pure _)

@[simp]
theorem plain_pure (value : α) : plain (pure value) = pure value := rfl

@[simp]
theorem plain_throw (error : RunError) : plain (throw error : Marking α) = throw error := rfl

@[simp]
theorem plain_get : plain get = get := rfl

@[simp]
theorem plain_modify (change : RunState → RunState) : plain (modify change) = modify change := rfl

@[simp]
theorem plain_bind (first : Marking α) (next : α → Marking β) :
    plain (first >>= next) = plain first >>= fun value => plain (next value) :=
  Running.carried_bind Mark.plain first next

theorem plain_guarded (settings : Settings) (operation : Operation) :
    plain (guarded settings operation) =
      Run.guarded operation.place fun session => operation.task.program settings session := by
  unfold guarded Run.guarded
  simp only [plain_bind, plain_begins, plain_get, plain_attempt, pure_bind]
  refine congrArg (bind get) (funext fun state => congrArg (bind _) (funext fun outcome => ?_))
  cases outcome with
  | ok value => rfl
  | error failure =>
    dsimp only
    split
    · simp only [plain_bind, plain_get, plain_asks]
      refine congrArg (bind get) (funext fun state => congrArg (bind _) (funext fun answer => ?_))
      cases answer with
      | none => exact plain_asks _
      | some session =>
        simp only [plain_bind, plain_modify, plain_attempt]
        refine congrArg (bind _) (funext fun _ => congrArg (bind _) (funext fun outcome => ?_))
        cases outcome with
        | ok value => rfl
        | error failure =>
          dsimp only
          split <;> exact plain_asks _
    · exact plain_asks _

theorem plain_meets (context : RunContext) (place : Place) (check : Check)
    (condition : Option Condition) :
    plain (meets context place check condition) = Run.meets context place condition := by
  cases condition with
  | none => rfl
  | some condition => exact plain_guarded context.settings ⟨place, .checks check condition⟩

theorem plain_iterate {context : RunContext} {place : Place} {loop : Loop}
    {body : Marking Unit} {plainBody : Running Unit} (same : plain body = plainBody)
    (left : Nat) (first : Bool) :
    plain (iterate context place loop body left first) =
      Run.iterate context place loop plainBody left first := by
  induction left generalizing first with
  | zero => rfl
  | succ left induction =>
    rw [iterate, iterate_succ_eq]
    simp only [plain_bind, plain_asks, plain_meets]
    congr 1
    funext _
    congr 1
    funext _
    congr 1
    funext met
    cases met with
    | true =>
      change plain (body >>= fun _ => iterate context place loop body left false) = _
      rw [plain_bind, same, induction]
      rfl
    | false => rfl

mutual

theorem plain_step (context : RunContext) (path : StepPath) :
    (step : Step) → plain (Marked.step context path step) = runStep context path step
  | .mk action condition loop timeoutMs source => by
    have body := plain_action context ⟨path, action.kind⟩ (limit context timeoutMs) action
    rw [Marked.step, runStep_eq]
    simp only [plain_bind, plain_meets]
    congr 1
    funext met
    cases met with
    | true =>
      cases loop with
      | none =>
        simp only [if_true, plain_bind, body, plain_asks]
        rfl
      | some loop =>
        simp only [if_true, plain_bind, plain_iterate body, plain_asks]
        rfl
    | false => rfl

theorem plain_action (context : RunContext) (place : Place) (timeout : Nat) :
    (action : Action) → plain (Marked.action context place timeout action) =
      runAction context place timeout action
  | .steps children => plain_children context place.path 0 children
  | .navigate _ | .click _ | .type _ _ | .hover _ | .scroll _ | .waitForElement _ _
  | .waitForExpression _ | .setViewport _ | .key _ _ => plain_guarded context.settings _

theorem plain_children (context : RunContext) (path : StepPath) (index : Nat) :
    (children : List Step) → plain (Marked.children context path index children) =
      runChildren context path index children
  | [] => rfl
  | child :: rest => by
    have first := plain_step context (path ++ [index]) child
    have others := plain_children context path (index + 1) rest
    rw [Marked.children, runChildren]
    simp only [plain_bind, plain_asks, first, others]

end

theorem plain_steps (context : RunContext) (index : Nat) (steps : List Step) :
    plain (Marked.steps context index steps) = runSteps context index steps := by
  induction steps generalizing index with
  | nil => rfl
  | cons step rest induction =>
    rw [Marked.steps, runSteps_cons_eq, plain_bind, plain_asks]
    congr 1
    funext stopped
    cases stopped with
    | true => rfl
    | false =>
      have onward : plain (match (step.fill context.vars).1 with
          | .error error => asks (stepFailed ⟨[index], step.kind⟩ (.invalid error.message))
          | .ok filled => do
            Marked.step context [index] filled
            asks (pauseAfter context.settings rest)
            Marked.steps context (index + 1) rest) = runFrom context index step rest := by
        unfold runFrom
        cases (step.fill context.vars).1 with
        | error error => exact plain_asks _
        | ok filled => simp only [plain_bind, plain_asks, plain_step, induction]
      let enter (piece : Running Unit) : Running Unit := do
        modify fun state => { state with index }
        piece
      exact congrArg enter onward

theorem attachAndRun_plain (settings : Settings) (script : Script) (vars : Variables)
    (target : String) :
    (Marked.attachAndRun settings script vars target).interpret Mark.plain =
      Run.attachAndRun settings script vars target := by
  rw [Marked.attachAndRun, Run.attachAndRun, Program.interpret_bind, asked_plain]
  congr 1
  funext stopped
  cases stopped with
  | true => rfl
  | false =>
    simp only [Bool.false_eq_true, if_false]
    rw [Program.interpret_bind, asked_plain]
    congr 1
    funext answer
    cases answer with
    | error error => rfl
    | ok session =>
      let context : RunContext := ⟨script.id, vars, settings⟩
      have ran : ((Marked.steps context 0 script.steps).run.run ⟨session, 0, 0⟩).interpret
          Mark.plain = (runSteps context 0 script.steps).run.run ⟨session, 0, 0⟩ :=
        congrFun (plain_steps context 0 script.steps) ⟨session, 0, 0⟩
      dsimp only
      rw [Program.interpret_bind, ran]
      rfl

/-- Without its marks, the marked run is the run. -/
theorem script_plain (settings : Settings) (program : Script) (overrides : Variables)
    (options : RunOptions) :
    (Marked.script settings program overrides options).interpret Mark.plain =
      Run.script settings program overrides options := by
  rw [script_eq, Marked.script]
  unfold takeTurn
  simp only [Program.interpret_bind, asked_plain, attachAndRun_plain]
  rfl

/-- What a run exchanges is what a marked run does, but for the marks. -/
theorem transcript_iff {settings : Settings} {program : Script} {overrides : Variables}
    {options : RunOptions} {log : Log} {result : RunResult} :
    Program.Transcript (Run.script settings program overrides options) log result ↔
      ∃ diary : Diary, Program.Transcript
        (Marked.script settings program overrides options) diary result ∧ diary.log = log := by
  rw [← script_plain, Program.Transcript.interpret_iff]
  simp only [Mark.carries_plain_iff]

/-- What a piece of a run without marks exchanges. -/
theorem asks_goes {piece : Running α} {before after : RunState} {diary : Diary}
    {outcome : Except RunError α} :
    Running.Goes (asks piece) before diary outcome after ↔
      ∃ log, Running.Goes piece before log outcome after ∧ diary = Log.unmarked log := by
  refine Program.Transcript.interpret_iff.trans ?_
  simp only [Mark.carries_ask_iff]
  rfl

/-- What comes after the beginning of an operation. -/
theorem begins_bind {operation : Operation} {next : Unit → Marking β} {before after : RunState}
    {diary : Diary} {outcome : Except RunError β}
    (run : Running.Goes (begins operation >>= next) before diary outcome after) :
    ∃ later, Running.Goes (next ()) before later outcome after ∧
      diary = ⟨.begins operation, ()⟩ :: later := by
  rcases Running.Goes.bind_iff.mp run with
    ⟨error, failed, _⟩ | ⟨_, middle, opening, later, begun, onward, rfl⟩
  · obtain ⟨_, _, same, _⟩ := Running.Goes.lift_iff.mp failed
    cases same
  · obtain ⟨_, made, _, rfl⟩ := Running.Goes.lift_iff.mp begun
    obtain rfl := Program.Transcript.request_iff.mp made
    exact ⟨later, onward, rfl⟩

/-- What comes after a request. -/
theorem request_bind {request : Request} {next : request.Answer → Marking β}
    {before after : RunState} {diary : Diary} {outcome : Except RunError β}
    (run : Running.Goes (asks (ask (Program.request request)) >>= next) before diary outcome
      after) :
    ∃ answer later, Running.Goes (next answer) before later outcome after ∧
      diary = ⟨.asks request, answer⟩ :: later := by
  rcases Running.Goes.bind_iff.mp run with
    ⟨error, failed, _⟩ | ⟨_, middle, opening, later, asked, onward, rfl⟩
  · obtain ⟨_, plain, _⟩ := asks_goes.mp failed
    obtain ⟨_, _, same, _⟩ := Running.Goes.ask_iff.mp plain
    cases same
  · obtain ⟨_, plain, rfl⟩ := asks_goes.mp asked
    obtain ⟨_, made, same, rfl⟩ := Running.Goes.ask_iff.mp plain
    cases same
    obtain rfl := Program.Transcript.request_iff.mp made
    exact ⟨_, later, onward, rfl⟩

/-- What a try exchanges, and what comes after it. -/
theorem attempt_bind {session : SessionHandle} {program : StepProgram α}
    {next : Except StepFailure α → Marking β} {before after : RunState} {diary : Diary}
    {outcome : Except RunError β}
    (run : Running.Goes (attempt session program >>= next) before diary outcome after) :
    ∃ (log : Log) (result : Except StepFailure α) (later : Diary),
      Program.Transcript program.run log result ∧
        Running.Goes (next result) before later outcome after ∧
        diary = (⟨.tries session, ()⟩ :: (log.unmarked ++ [⟨.ends (failure? result), ()⟩])) ++
          later := by
  rcases Running.Goes.bind_iff.mp run with
    ⟨error, failed, _⟩ | ⟨result, middle, opening, later, tried, onward, rfl⟩
  · obtain ⟨_, _, same, _⟩ := Running.Goes.lift_iff.mp failed
    cases same
  · obtain ⟨_, lifted, same, rfl⟩ := Running.Goes.lift_iff.mp tried
    cases same
    obtain ⟨_, _, _, begun, asking, rfl⟩ := Program.Transcript.bind_iff.mp lifted
    obtain rfl := Program.Transcript.request_iff.mp begun
    obtain ⟨_, _, _, asked, ending, rfl⟩ := Program.Transcript.bind_iff.mp asking
    obtain ⟨log, made, carries⟩ := Program.Transcript.interpret_iff.mp asked
    obtain rfl := Mark.carries_ask_iff.mp carries
    obtain ⟨_, _, _, ended, returned, rfl⟩ := Program.Transcript.bind_iff.mp ending
    obtain rfl := Program.Transcript.request_iff.mp ended
    obtain ⟨rfl, rfl⟩ := Program.Transcript.pure_iff.mp returned
    exact ⟨log, _, later, made, onward, rfl⟩

end Marked

end BrowserScript.Run

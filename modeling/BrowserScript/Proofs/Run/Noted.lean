import BrowserScript.Proofs.Run.Meaning

/-!
# Noted runs

A run that also notes what it is about: before which step or iteration it asks whether it is still
wanted, when it begins one, and on whose behalf it makes each of its other requests. The notes are
requests of their own, so a noted run is a program like any other; without its notes it is the run.
Main definitions: `Run.Activation`, `Run.Note`, `Run.Noted.script`. Main results:
`Run.Noted.script_plain`, `Run.Noted.transcript_iff`.
-/

set_option autoImplicit false

namespace BrowserScript

/-! ## Programs carried out by others -/

namespace Program

variable {Q R S : Type} {A : Q → Type} {B : R → Type} {C : S → Type} {α β : Type}

theorem interpret_bind (f : (q : Q) → Program R B (A q)) (first : Program Q A α)
    (next : α → Program Q A β) :
    (first >>= next).interpret f = first.interpret f >>= fun value => (next value).interpret f := by
  induction first with
  | done value => rfl
  | ask request further induction =>
    refine Eq.trans (congrArg (bind (f request)) ?_) (bind_assoc (f request) _ _).symm
    funext answer
    exact induction answer

theorem interpret_request (f : (q : Q) → Program R B (A q)) (q : Q) :
    (request q : Program Q A (A q)).interpret f = f q :=
  bind_done (f q)

theorem interpret_interpret (f : (q : Q) → Program R B (A q)) (g : (r : R) → Program S C (B r))
    (program : Program Q A α) :
    (program.interpret f).interpret g = program.interpret fun q => (f q).interpret g := by
  induction program with
  | done value => rfl
  | ask request further induction =>
    refine (interpret_bind g (f request) _).trans (congrArg (bind ((f request).interpret g)) ?_)
    funext answer
    exact induction answer

/-- Each request carried out by itself. -/
theorem interpret_self (program : Program Q A α) : program.interpret request = program := by
  induction program with
  | done value => rfl
  | ask q next induction =>
    refine congrArg (ask q) ?_
    funext answer
    exact induction answer

/-- What a program exchanges when each of its requests is carried out by a program over other
requests. -/
inductive Carries (f : (q : Q) → Program R B (A q)) : List (Entry Q A) → List (Entry R B) → Prop
  | nil : Carries f [] []
  | cons {q : Q} {answer : A q} {log : List (Entry Q A)} {part later : List (Entry R B)}
      (run : Transcript (f q) part answer) (rest : Carries f log later) :
      Carries f (⟨q, answer⟩ :: log) (part ++ later)

theorem Transcript.interpret_iff {f : (q : Q) → Program R B (A q)} {program : Program Q A α}
    {log : List (Entry R B)} {result : α} :
    Transcript (program.interpret f) log result ↔
      ∃ outer, Transcript program outer result ∧ Carries f outer log := by
  induction program generalizing log with
  | done value =>
    refine Transcript.pure_iff.trans ?_
    constructor
    · rintro ⟨rfl, rfl⟩
      exact ⟨[], .done _, .nil⟩
    · rintro ⟨_, run, carries⟩
      cases run
      cases carries
      exact ⟨rfl, rfl⟩
  | ask q next induction =>
    refine Transcript.bind_iff.trans ?_
    constructor
    · rintro ⟨answer, part, later, run, onward, rfl⟩
      obtain ⟨outer, further, carries⟩ := (induction answer).mp onward
      exact ⟨_, .ask answer further, .cons run carries⟩
    · rintro ⟨_, run, carries⟩
      cases run with
      | ask answer further =>
        cases carries with
        | cons run carries =>
          exact ⟨answer, _, _, run, (induction answer).mpr ⟨_, further, carries⟩, rfl⟩

/-- Requests that are always carried out with the same exchanges. -/
theorem carries_iff {f : (q : Q) → Program R B (A q)} {exchange : Entry Q A → List (Entry R B)}
    (each : ∀ q part answer, Transcript (f q) part answer ↔ part = exchange ⟨q, answer⟩)
    {log : List (Entry Q A)} {carried : List (Entry R B)} :
    Carries f log carried ↔ carried = log.flatMap exchange := by
  constructor
  · intro carries
    induction carries with
    | nil => rfl
    | cons run rest induction =>
      rw [(each _ _ _).mp run, induction]
      rfl
  · rintro rfl
    induction log with
    | nil => exact .nil
    | cons entry log induction => exact .cons ((each _ _ _).mpr rfl) induction

/-- Requests that are carried out by one request each leave one entry each. -/
theorem carries_single_iff {f : (q : Q) → Program R B (A q)} {g : Entry Q A → Entry R B}
    (single : ∀ q part answer, Transcript (f q) part answer ↔ part = [g ⟨q, answer⟩])
    {log : List (Entry Q A)} {carried : List (Entry R B)} :
    Carries f log carried ↔ carried = log.map g := by
  rw [List.map_eq_flatMap]
  exact carries_iff single

end Program

namespace Running

variable {Q R S : Type} {A : Q → Type} {B : R → Type} {C : S → Type} {α β : Type}

/-- A piece of a run, each of its requests carried out by a program over other requests. -/
def carried (f : (q : Q) → Program R B (A q)) (piece : RunningOver Q A α) : RunningOver R B α :=
  ExceptT.mk fun state => (piece.run.run state).interpret f

@[simp]
theorem carried_pure (f : (q : Q) → Program R B (A q)) (value : α) :
    carried f (pure value : RunningOver Q A α) = pure value := rfl

@[simp]
theorem carried_throw (f : (q : Q) → Program R B (A q)) (error : RunError) :
    carried f (throw error : RunningOver Q A α) = throw error := rfl

@[simp]
theorem carried_get (f : (q : Q) → Program R B (A q)) :
    carried f (get : RunningOver Q A RunState) = get := rfl

@[simp]
theorem carried_modify (f : (q : Q) → Program R B (A q)) (change : RunState → RunState) :
    carried f (modify change : RunningOver Q A PUnit) = modify change := rfl

@[simp]
theorem carried_lift (f : (q : Q) → Program R B (A q)) (program : Program Q A α) :
    carried f (ExceptT.lift (StateT.lift program) : RunningOver Q A α) =
      ExceptT.lift (StateT.lift (program.interpret f)) := by
  funext state
  change (Program.interpret f ((program >>= fun value => pure (value, state)) >>= _)) = _
  rw [Program.interpret_bind, Program.interpret_bind]
  rfl

@[simp]
theorem carried_bind (f : (q : Q) → Program R B (A q)) (first : RunningOver Q A α)
    (next : α → RunningOver Q A β) :
    carried f (first >>= next) = carried f first >>= fun value => carried f (next value) := by
  funext state
  change Program.interpret f (first.run.run state >>= _) = Program.interpret f _ >>= _
  rw [Program.interpret_bind]
  congr 1
  funext ⟨outcome, middle⟩
  cases outcome with
  | ok value => rfl
  | error error => rfl

@[simp]
theorem carried_carried (f : (q : Q) → Program R B (A q)) (g : (r : R) → Program S C (B r))
    (piece : RunningOver Q A α) :
    carried g (carried f piece) = carried (fun q => (f q).interpret g) piece := by
  funext state
  exact Program.interpret_interpret f g _

@[simp]
theorem carried_self (piece : RunningOver Q A α) : carried Program.request piece = piece := by
  funext state
  exact Program.interpret_self _

end Running

namespace Run

variable {α β : Type}

/-! ## Notes -/

/-- What a run begins only while it is wanted. -/
inductive Activation where
  /-- The run itself, once it has its turn. -/
  | whole
  | step (path : StepPath)
  /-- An iteration of the loop of a step; the check of the condition of the loop belongs to it. -/
  | iteration (path : StepPath) (number : Nat)
  deriving DecidableEq, Repr

namespace Activation

/-- The top-level step that an activation belongs to, if it belongs to one. -/
def top? : Activation → Option Nat
  | whole => none
  | step path | iteration path _ => path.head?

/-- The index of the top-level step reached with an activation. -/
def index (activation : Activation) : Nat := activation.top?.getD 0

/-- What may come next after the last thing begun: something in the same top-level step, or the
next one. -/
def Follows (next : Activation) : Option Activation → Prop
  | none => next = whole
  | some whole => next = step [0]
  | some here => next.top? = here.top? ∨ next = step [here.index + 1]

theorem follows_of_top? {here next : Activation} {top : Nat} (same : here.top? = some top)
    (also : next.top? = some top) : next.Follows (some here) := by
  cases here with
  | whole => cases same
  | step path | iteration path number => exact .inl (also.trans same.symm)

theorem next_follows {here : Activation} {top : Nat} (same : here.top? = some top) :
    (step [top + 1]).Follows (some here) := by
  cases here with
  | whole => cases same
  | step path | iteration path number =>
    refine .inr ?_
    rw [index, same]
    rfl

end Activation

/-- What a noted run does. -/
inductive Note where
  /-- Asks whether it is still wanted, with this to be begun next. -/
  | checks (next : Activation)
  | begins (activation : Activation)
  /-- Makes a request on behalf of something that it has begun, or in between. -/
  | asks (behalf : Option Activation) (request : Request)
  deriving DecidableEq, Repr

def Note.Answer : Note → Type
  | checks _ => Bool
  | begins _ => Unit
  | asks _ request => request.Answer

/-- A note without what it says about the run. -/
def Note.plain : (note : Note) → RunProgram note.Answer
  | checks _ => isCancelled
  | begins _ => return ()
  | asks _ request => Program.request request

/-- What a noted run exchanges with its surroundings, and its notes. -/
abbrev Account : Type := List (Program.Entry Note Note.Answer)

/-- A program with notes. -/
abbrev NotedProgram (α : Type) : Type := Program Note Note.Answer α

/-- A piece of a run with notes. -/
abbrev Noting (α : Type) : Type := RunningOver Note Note.Answer α

/-- A request without what is noted about it; the beginning of something is no request. -/
def Note.exchange : Program.Entry Note Note.Answer → Log
  | ⟨.checks _, stopped⟩ => [⟨.isCancelled, stopped⟩]
  | ⟨.begins _, _⟩ => []
  | ⟨.asks _ request, answer⟩ => [⟨request, answer⟩]

/-- What a noted run exchanges with its surroundings. -/
def Account.log (account : Account) : Log := account.flatMap Note.exchange

/-- The notes of a piece of a run that is carried out on behalf of an activation. -/
def Log.noted (behalf : Option Activation) (log : Log) : Account :=
  log.map fun entry => ⟨.asks behalf entry.request, entry.answer⟩

namespace Note

def check (next : Activation) : NotedProgram Bool := Program.request (checks next)

def begin (activation : Activation) : NotedProgram Unit := Program.request (begins activation)

def ask (behalf : Option Activation) (request : Request) : NotedProgram request.Answer :=
  Program.request (asks behalf request)

theorem check_plain (next : Activation) : (check next).interpret plain = isCancelled :=
  Program.interpret_request plain (checks next)

theorem begin_plain (activation : Activation) : (begin activation).interpret plain = pure () :=
  Program.interpret_request plain (begins activation)

theorem ask_plain (behalf : Option Activation) (request : Request) :
    (ask behalf request).interpret plain = Program.request request :=
  Program.interpret_request plain (asks behalf request)

theorem plain_transcript_iff (note : Note) (log : Log) (answer : note.Answer) :
    Program.Transcript note.plain log answer ↔ log = exchange ⟨note, answer⟩ := by
  cases note with
  | begins activation => exact Program.Transcript.pure_iff.trans (and_iff_left rfl)
  | checks next | asks behalf request => exact Program.Transcript.request_iff

theorem carries_plain_iff {account : Account} {log : Log} :
    Program.Carries plain account log ↔ account.log = log :=
  (Program.carries_iff plain_transcript_iff).trans eq_comm

theorem carries_ask_iff {behalf : Option Activation} {log : Log} {account : Account} :
    Program.Carries (ask behalf) log account ↔ account = log.noted behalf :=
  Program.carries_single_iff fun _ _ _ => Program.Transcript.request_iff

end Note

namespace Noted

/-! ## The interpreter with notes -/

/-- Carries out a piece of a run on behalf of an activation, or in between. -/
def asks (behalf : Option Activation) (piece : Running α) : Noting α :=
  Running.carried (Note.ask behalf) piece

def checks (next : Activation) : Noting Bool := ExceptT.lift (StateT.lift (Note.check next))

def begins (activation : Activation) : Noting Unit :=
  ExceptT.lift (StateT.lift (Note.begin activation))

/-- Ends the run if it is no longer wanted. -/
def wanted (next : Activation) : Noting Unit := do
  if ← checks next then throw (.cancelled (← get).index)

/-- Goes through the iterations of a loop from the given number on. -/
def iterate (context : RunContext) (place : Place) (loop : Loop) (body : Activation → Noting Unit) :
    (number left : Nat) → Noting Unit
  | _, 0 => return ()
  | number, left + 1 => do
    asks none (pauseBefore loop (number == 0))
    wanted (.iteration place.path number)
    begins (.iteration place.path number)
    if ← asks (some (.iteration place.path number)) (meets context place loop.condition) then
      body (.iteration place.path number)
      iterate context place loop body (number + 1) left

mutual

def step (context : RunContext) (path : StepPath) : Step → Noting Unit
  | .mk action condition loop timeoutMs _ => do
    let place : Place := ⟨path, action.kind⟩
    begins (.step path)
    if ← asks (some (.step path)) (meets context place condition) then
      let body (activation : Activation) : Noting Unit :=
        Noted.action context place (limit context timeoutMs) activation action
      match loop with
      | none => body (.step path)
      | some loop => iterate context place loop body 0 loop.iterations.toNat
      asks none (completed context place)

/-- Carries out an action once, on behalf of a step or of an iteration. -/
def action (context : RunContext) (place : Place) (timeout : Nat) (activation : Activation) :
    Action → Noting Unit
  | .steps children => Noted.children context place.path 0 children
  | action =>
    asks (some activation)
      (guarded place fun session => perform context.settings session timeout action)

def children (context : RunContext) (path : StepPath) (index : Nat) : List Step → Noting Unit
  | [] => return ()
  | child :: rest => do
    wanted (.step (path ++ [index]))
    Noted.step context (path ++ [index]) child
    Noted.children context path (index + 1) rest

end

/-- Runs top-level steps from the given index on. -/
def steps (context : RunContext) (index : Nat) : List Step → Noting Unit
  | [] => return ()
  | step :: rest => do
    if ← checks (.step [index]) then throw (.cancelled index)
    modify fun state => { state with index }
    match (step.fill context.vars).1 with
    | .error error =>
      begins (.step [index])
      asks (some (.step [index]))
        (stepFailed ⟨[index], step.kind⟩ (.invalid error.message))
    | .ok filled =>
      Noted.step context [index] filled
      asks none (pauseAfter context.settings rest)
      steps context (index + 1) rest

def attachAndRun (settings : Settings) (script : Script) (vars : Variables) (target : String) :
    NotedProgram (Except RunError Unit × Nat × Bool) := do
  if ← Note.check .whole then return (.error (.cancelled 0), 0, true)
  else
    Note.begin .whole
    match ← (attach target).interpret (Note.ask (some .whole)) with
    | .error error => return (.error (.setup error.message), 0, true)
    | .ok session =>
      let context : RunContext := ⟨script.id, vars, settings⟩
      let (outcome, state) ← ((steps context 0 script.steps).run).run ⟨session, 0, 0⟩
      return (outcome, state.executed, session.keepAlive)

/-- A whole run with notes. -/
def script (settings : Settings) (script : Script) (overrides : Variables) (options : RunOptions) :
    NotedProgram RunResult := do
  let started ← now.interpret (Note.ask none)
  (acquire options.target).interpret (Note.ask none)
  let (outcome, executed, keep) ←
    attachAndRun settings script (script.parameters.merge overrides) options.target
  (part options.target (options.detach || !keep)).interpret (Note.ask none)
  (release options.target).interpret (Note.ask none)
  let ended ← now.interpret (Note.ask none)
  return RunResult.report options.target outcome executed (ended - started)

/-! ## Without its notes -/

/-- A piece of a run without its notes. -/
def plain (piece : Noting α) : Running α := Running.carried Note.plain piece

@[simp]
theorem plain_asks (behalf : Option Activation) (piece : Running α) :
    plain (asks behalf piece) = piece := by
  unfold plain asks
  simp only [Running.carried_carried, Note.ask_plain]
  exact Running.carried_self piece

@[simp]
theorem plain_checks (next : Activation) : plain (checks next) = ask isCancelled := by
  unfold plain checks ask
  rw [Running.carried_lift, Note.check_plain]

@[simp]
theorem plain_begins (activation : Activation) : plain (begins activation) = pure () := by
  unfold plain begins
  rw [Running.carried_lift, Note.begin_plain]
  rfl

@[simp]
theorem plain_pure (value : α) : plain (pure value) = pure value := rfl

@[simp]
theorem plain_bind (first : Noting α) (next : α → Noting β) :
    plain (first >>= next) = plain first >>= fun value => plain (next value) :=
  Running.carried_bind Note.plain first next

theorem plain_throw (error : RunError) : plain (throw error : Noting α) = throw error := rfl

theorem plain_wanted (next : Activation) : plain (wanted next) = checkWanted := by
  unfold wanted checkWanted
  rw [plain_bind, plain_checks]
  congr 1
  funext stopped
  cases stopped with
  | true => rfl
  | false => rfl

/-- A loop is entered for the first time with its iteration zero. -/
theorem plain_iterate {context : RunContext} {place : Place} {loop : Loop}
    {body : Activation → Noting Unit} {plainBody : Running Unit}
    (same : ∀ activation, plain (body activation) = plainBody) (number left : Nat) :
    plain (iterate context place loop body number left) =
      Run.iterate context place loop plainBody left (number == 0) := by
  induction left generalizing number with
  | zero => rfl
  | succ left induction =>
    rw [iterate, iterate_succ_eq]
    simp only [plain_bind, plain_wanted, plain_begins, plain_asks, pure_bind]
    congr 1
    funext _
    congr 1
    funext _
    congr 1
    funext met
    cases met with
    | true =>
      change plain (body _ >>= fun _ => iterate context place loop body (number + 1) left) = _
      rw [plain_bind, same, induction]
      rfl
    | false => rfl

mutual

theorem plain_step (context : RunContext) (path : StepPath) :
    (step : Step) → plain (Noted.step context path step) = runStep context path step
  | .mk action condition loop timeoutMs source => by
    have body : ∀ activation, plain (Noted.action context ⟨path, action.kind⟩
        (limit context timeoutMs) activation action) =
          runAction context ⟨path, action.kind⟩ (limit context timeoutMs) action :=
      fun activation => plain_action context _ _ activation action
    rw [Noted.step, runStep_eq]
    simp only [plain_bind, plain_begins, plain_asks, pure_bind]
    congr 1
    funext met
    cases met with
    | true =>
      cases loop with
      | none =>
        simp only [if_true, plain_bind, body]
        rfl
      | some loop =>
        simp only [if_true, plain_bind, plain_iterate body]
        rfl
    | false => rfl

theorem plain_action (context : RunContext) (place : Place) (timeout : Nat)
    (activation : Activation) :
    (action : Action) → plain (Noted.action context place timeout activation action) =
      runAction context place timeout action
  | .steps children => plain_children context place.path 0 children
  | .navigate _ | .click _ | .type _ _ | .hover _ | .scroll _ | .waitForElement _ _
  | .waitForExpression _ | .setViewport _ | .key _ _ => plain_asks (some activation) _

theorem plain_children (context : RunContext) (path : StepPath) (index : Nat) :
    (children : List Step) → plain (Noted.children context path index children) =
      runChildren context path index children
  | [] => rfl
  | child :: rest => by
    have first := plain_step context (path ++ [index]) child
    have others := plain_children context path (index + 1) rest
    rw [Noted.children, runChildren]
    simp only [plain_bind, plain_wanted, first, others]

end

theorem plain_steps (context : RunContext) (index : Nat) (steps : List Step) :
    plain (Noted.steps context index steps) = runSteps context index steps := by
  induction steps generalizing index with
  | nil => rfl
  | cons step rest induction =>
    rw [Noted.steps, runSteps_cons_eq, plain_bind, plain_checks]
    congr 1
    funext stopped
    cases stopped with
    | true => rfl
    | false =>
      have onward : plain (match (step.fill context.vars).1 with
          | .error error => do
            begins (.step [index])
            asks (some (.step [index]))
              (stepFailed ⟨[index], step.kind⟩ (.invalid error.message))
          | .ok filled => do
            Noted.step context [index] filled
            asks none (pauseAfter context.settings rest)
            Noted.steps context (index + 1) rest) = runFrom context index step rest := by
        unfold runFrom
        cases (step.fill context.vars).1 with
        | error error =>
          simp only [plain_bind, plain_begins, plain_asks, pure_bind]
        | ok filled => simp only [plain_bind, plain_asks, plain_step, induction]
      let enter (piece : Running Unit) : Running Unit := do
        modify fun state => { state with index }
        piece
      exact congrArg enter onward

theorem asked_plain (behalf : Option Activation) (program : RunProgram α) :
    (program.interpret (Note.ask behalf)).interpret Note.plain = program := by
  rw [Program.interpret_interpret]
  simp only [Note.ask_plain]
  exact Program.interpret_self program

theorem attachAndRun_plain (settings : Settings) (script : Script) (vars : Variables)
    (target : String) :
    (Noted.attachAndRun settings script vars target).interpret Note.plain =
      Run.attachAndRun settings script vars target := by
  rw [Noted.attachAndRun, Run.attachAndRun, Program.interpret_bind, Note.check_plain]
  congr 1
  funext stopped
  cases stopped with
  | true => rfl
  | false =>
    simp only [Bool.false_eq_true, if_false]
    rw [Program.interpret_bind, Note.begin_plain, pure_bind, Program.interpret_bind,
      asked_plain]
    congr 1
    funext answer
    cases answer with
    | error error => rfl
    | ok session =>
      let context : RunContext := ⟨script.id, vars, settings⟩
      have ran : ((Noted.steps context 0 script.steps).run.run ⟨session, 0, 0⟩).interpret
          Note.plain = (runSteps context 0 script.steps).run.run ⟨session, 0, 0⟩ :=
        congrFun (plain_steps context 0 script.steps) ⟨session, 0, 0⟩
      dsimp only
      rw [Program.interpret_bind, ran]
      rfl

/-- Without its notes, the noted run is the run. -/
theorem script_plain (settings : Settings) (program : Script) (overrides : Variables)
    (options : RunOptions) :
    (Noted.script settings program overrides options).interpret Note.plain =
      Run.script settings program overrides options := by
  rw [script_eq, Noted.script]
  unfold takeTurn
  simp only [Program.interpret_bind, asked_plain, attachAndRun_plain]
  rfl

/-- What a run exchanges is what a noted run does, but for the notes. -/
theorem transcript_iff {settings : Settings} {program : Script} {overrides : Variables}
    {options : RunOptions} {log : Log} {result : RunResult} :
    Program.Transcript (Run.script settings program overrides options) log result ↔
      ∃ account : Account, Program.Transcript
        (Noted.script settings program overrides options) account result ∧ account.log = log := by
  rw [← script_plain, Program.Transcript.interpret_iff]
  simp only [Note.carries_plain_iff]

end Noted

end Run

end BrowserScript

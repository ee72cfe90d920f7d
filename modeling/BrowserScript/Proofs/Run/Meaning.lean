import BrowserScript.Proofs.Run.Tally

/-!
# Whole scripts

A whole script, undisturbed, does exactly what its tree of steps says; and whatever it is answered,
it reports as many completed steps as it has told of. Main result: `Run.script_runs_as_tree`.
-/

set_option autoImplicit false

namespace BrowserScript.Run

open Running

variable {α β : Type}

/-! ## What programs show -/

namespace Shows

theorem pure_iff {value result : α} {trace : Log} :
    Shows (Pure.pure value) trace result ↔ trace = [] ∧ result = value := by
  constructor
  · rintro ⟨log, _, rfl, run⟩
    obtain ⟨rfl, rfl⟩ := Program.Transcript.pure_iff.mp run
    exact ⟨rfl, rfl⟩
  · rintro ⟨rfl, rfl⟩
    exact ⟨[], fun _ member => absurd member List.not_mem_nil, rfl,
      Program.Transcript.pure_iff.mpr ⟨rfl, rfl⟩⟩

theorem bind_iff {first : RunProgram α} {next : α → RunProgram β} {trace : Log} {result : β} :
    Shows (first >>= next) trace result ↔
      ∃ value opening closing, Shows first opening value ∧ Shows (next value) closing result ∧
        trace = opening ++ closing := by
  constructor
  · rintro ⟨log, undisturbed, rfl, run⟩
    obtain ⟨value, early, late, start, finish, rfl⟩ := Program.Transcript.bind_iff.mp run
    obtain ⟨calm, calmer⟩ := undisturbed_append.mp undisturbed
    exact ⟨value, _, _, ⟨early, calm, rfl, start⟩, ⟨late, calmer, rfl, finish⟩,
      visible_append early late⟩
  · rintro ⟨value, _, _, ⟨early, calm, rfl, start⟩, ⟨late, calmer, rfl, finish⟩, rfl⟩
    exact ⟨early ++ late, undisturbed_append.mpr ⟨calm, calmer⟩, visible_append early late,
      Program.Transcript.bind_iff.mpr ⟨value, early, late, start, finish, rfl⟩⟩

/-- Being asked whether the run is wanted does not show. -/
theorem isCancelled_bind_iff {next : Bool → RunProgram β} {trace : Log} {result : β} :
    Shows (isCancelled >>= next) trace result ↔ Shows (next false) trace result := by
  constructor
  · rintro ⟨log, undisturbed, rfl, run⟩
    cases run with
    | ask answer rest =>
      obtain rfl : answer = false := undisturbed _ (.head _)
      exact ⟨_, fun entry member => undisturbed entry (.tail _ member), rfl, rest⟩
  · rintro ⟨log, undisturbed, rfl, run⟩
    refine ⟨⟨.isCancelled, false⟩ :: log, ?_, rfl, Program.Transcript.bind_iff.mpr
      ⟨false, _, log, Program.Transcript.request_iff.mpr rfl, run, rfl⟩⟩
    intro entry member
    rcases List.mem_cons.mp member with rfl | member
    · rfl
    · exact undisturbed entry member

/-- Any other request shows. -/
theorem request_bind_iff (request : Request) (shown : request.isCheck = false)
    {next : request.Answer → RunProgram β} {trace : Log} {result : β} :
    Shows (Program.request request >>= next) trace result ↔
      ∃ answer closing, Calm ⟨request, answer⟩ ∧ Shows (next answer) closing result ∧
        trace = ⟨request, answer⟩ :: closing := by
  have seen : ∀ answer log, visible (⟨request, answer⟩ :: log) =
      ⟨request, answer⟩ :: visible log := by
    intro answer log
    exact List.filter_cons_of_pos (by rw [shown]; rfl)
  constructor
  · rintro ⟨log, undisturbed, rfl, run⟩
    cases run with
    | ask answer rest =>
      exact ⟨answer, _, undisturbed _ (.head _),
        ⟨_, fun entry member => undisturbed entry (.tail _ member), rfl, rest⟩, seen answer _⟩
  · rintro ⟨answer, _, calm, ⟨log, undisturbed, rfl, run⟩, rfl⟩
    refine ⟨⟨request, answer⟩ :: log, ?_, seen answer log, .ask answer run⟩
    intro entry member
    rcases List.mem_cons.mp member with rfl | member
    · exact calm
    · exact undisturbed entry member

theorem undisturbed {program : RunProgram α} {trace : Log} {result : α}
    (seen : Shows program trace result) : Undisturbed trace := by
  obtain ⟨log, calm, rfl, _⟩ := seen
  exact undisturbed_visible calm

end Shows

/-! ## Attaching and leaving -/

/-- How a run attaches and runs its steps: what is seen of it, how it ends, how many steps it
completes, and whether the session is kept. -/
inductive Attempts (settings : Settings) (script : Script) (vars : Variables) (target : String) :
    Log → Except RunError Unit × Nat × Bool → Prop
  | unattached (error : PageError) :
      Attempts settings script vars target [⟨.attach target, .error error⟩]
        (.error (.setup error.message), 0, true)
  | attached {session : SessionHandle} {log : Log} {outcome : Except RunError Unit} {count : Nat}
      (steps : StepsRun ⟨script.id, vars, settings⟩ session.sessionId 0 script.steps log count
        outcome) :
      Attempts settings script vars target (⟨.attach target, .ok session⟩ :: log)
        (outcome, count, session.keepAlive)

theorem steps_shown {context : RunContext} {session : SessionHandle} {steps : List Step}
    {trace : Log} {result : Except RunError Unit × Nat × Bool} :
    Shows (do
        let (outcome, state) ← ((runSteps context 0 steps).run).run ⟨session, 0, 0⟩
        return (outcome, state.executed, session.keepAlive)) trace result ↔
      ∃ outcome count, Undisturbed trace ∧
        StepsRun context session.sessionId 0 steps trace count outcome ∧
          result = (outcome, count, session.keepAlive) := by
  have refines := runSteps_seen context steps 0 ⟨session, 0, 0⟩ trace
  simp only [Nat.zero_add] at refines
  constructor
  · intro seen
    obtain ⟨⟨outcome, state⟩, _, _, start, finish, rfl⟩ := Shows.bind_iff.mp seen
    obtain ⟨rfl, rfl⟩ := Shows.pure_iff.mp finish
    rw [List.append_nil] at refines ⊢
    obtain ⟨count, calm, run, same⟩ := (refines outcome state.executed).mp ⟨state, start, rfl⟩
    exact ⟨outcome, count, calm, run, by rw [same]⟩
  · rintro ⟨outcome, count, calm, run, rfl⟩
    obtain ⟨state, seen, rfl⟩ := (refines outcome count).mpr ⟨count, calm, run, rfl⟩
    exact Shows.bind_iff.mpr ⟨(outcome, state), trace, [], seen, Shows.pure_iff.mpr ⟨rfl, rfl⟩,
      (List.append_nil trace).symm⟩

theorem attachAndRun_shown {settings : Settings} {script : Script} {vars : Variables}
    {target : String} {trace : Log} {result : Except RunError Unit × Nat × Bool} :
    Shows (attachAndRun settings script vars target) trace result ↔
      Undisturbed trace ∧ Attempts settings script vars target trace result := by
  have attachCalm : ∀ answer, Calm ⟨.attach target, answer⟩ := fun _ => trivial
  rw [attachAndRun, Shows.isCancelled_bind_iff]
  refine (Shows.request_bind_iff (.attach target) rfl).trans ?_
  constructor
  · rintro ⟨answer, closing, _, seen, rfl⟩
    refine ⟨List.forall_mem_cons.mpr ⟨attachCalm answer, seen.undisturbed⟩, ?_⟩
    cases answer with
    | error error =>
      obtain ⟨rfl, rfl⟩ := Shows.pure_iff.mp seen
      exact .unattached error
    | ok session =>
      obtain ⟨outcome, count, _, run, rfl⟩ := steps_shown.mp seen
      exact .attached run
  · rintro ⟨calm, attempt⟩
    cases attempt with
    | unattached error => exact ⟨.error error, [], attachCalm _, Shows.pure_iff.mpr ⟨rfl, rfl⟩, rfl⟩
    | attached steps =>
      exact ⟨.ok _, _, attachCalm _, steps_shown.mpr ⟨_, _, (List.forall_mem_cons.mp calm).2, steps,
        rfl⟩, rfl⟩

/-- Gives up the session at the end if it is to be. -/
def part (target : String) (wanted : Bool) : RunProgram Unit :=
  if wanted then do
    let _ ← detach target
  else return ()

theorem part_shown {target : String} {wanted : Bool} {trace : Log} {result : Unit} :
    Shows (part target wanted) trace result ↔ Parts target wanted trace := by
  cases wanted with
  | false =>
    refine Shows.pure_iff.trans ?_
    constructor
    · rintro ⟨rfl, rfl⟩
      exact .keep
    · rintro ⟨⟩
      exact ⟨rfl, rfl⟩
  | true =>
    refine (Shows.request_bind_iff (.detach target) rfl).trans ?_
    constructor
    · rintro ⟨answer, _, _, seen, rfl⟩
      obtain ⟨rfl, _⟩ := Shows.pure_iff.mp seen
      exact .detach answer
    · intro parts
      cases parts with
      | detach answer => exact ⟨answer, [], trivial, Shows.pure_iff.mpr ⟨rfl, rfl⟩, rfl⟩

/-- What a run does when its turn has come. -/
def takeTurn (settings : Settings) (program : Script) (overrides : Variables)
    (options : RunOptions) (started : Nat) : RunProgram RunResult := do
  let (outcome, executed, keep) ←
    attachAndRun settings program (program.parameters.merge overrides) options.target
  part options.target (options.detach || !keep)
  release options.target
  let ended ← now
  return .report options.target outcome executed (ended - started)

theorem script_eq (settings : Settings) (program : Script) (overrides : Variables)
    (options : RunOptions) :
    Run.script settings program overrides options = (do
      let started ← now
      acquire options.target
      takeTurn settings program overrides options started) := by
  unfold Run.script takeTurn part
  congr 1
  funext started
  congr 1
  funext _
  dsimp only
  congr 1
  funext ⟨outcome, executed, keep⟩
  dsimp only
  split
  · rfl
  · rfl

/-- Whatever the end of a run is, it lets the next one go on. -/
theorem leave_shown {target : String} {wanted : Bool} {started : Nat}
    {outcome : Except RunError Unit} {executed : Nat} {trace : Log} {result : RunResult} :
    Shows (do
        part target wanted
        release target
        let ended ← now
        return RunResult.report target outcome executed (ended - started)) trace result ↔
      ∃ parting ended, Parts target wanted parting ∧
        trace = parting ++ [⟨.release target, ()⟩, ⟨.now, ended⟩] ∧
          result = .report target outcome executed (ended - started) := by
  constructor
  · intro seen
    obtain ⟨_, parting, _, parts, left, rfl⟩ := Shows.bind_iff.mp seen
    obtain ⟨_, _, _, released, rfl⟩ := (Shows.request_bind_iff (.release target) rfl).mp left
    obtain ⟨ended, _, _, reported, rfl⟩ := (Shows.request_bind_iff .now rfl).mp released
    obtain ⟨rfl, rfl⟩ := Shows.pure_iff.mp reported
    exact ⟨parting, ended, part_shown.mp parts, rfl, rfl⟩
  · rintro ⟨parting, ended, parts, rfl, rfl⟩
    refine Shows.bind_iff.mpr ⟨(), parting, _, part_shown.mpr parts, ?_, rfl⟩
    refine (Shows.request_bind_iff (.release target) rfl).mpr ⟨(), _, trivial, ?_, rfl⟩
    exact (Shows.request_bind_iff .now rfl).mpr
      ⟨ended, [], trivial, Shows.pure_iff.mpr ⟨rfl, rfl⟩, rfl⟩

/-! ## The whole run -/

theorem takeTurn_shown {settings : Settings} {program : Script} {overrides : Variables}
    {options : RunOptions} {started : Nat} {trace : Log} {result : RunResult} :
    Shows (takeTurn settings program overrides options started) trace result ↔
      ∃ log outcome executed keep parting ended, Undisturbed log ∧
        Attempts settings program (program.parameters.merge overrides) options.target log
          (outcome, executed, keep) ∧
        Parts options.target (options.detach || !keep) parting ∧
        trace = log ++ (parting ++ [⟨.release options.target, ()⟩, ⟨.now, ended⟩]) ∧
        result = .report options.target outcome executed (ended - started) := by
  constructor
  · intro seen
    obtain ⟨⟨outcome, executed, keep⟩, log, _, attempt, left, rfl⟩ := Shows.bind_iff.mp seen
    obtain ⟨parting, ended, parts, rfl, rfl⟩ := leave_shown.mp left
    obtain ⟨calm, attempt⟩ := attachAndRun_shown.mp attempt
    exact ⟨log, outcome, executed, keep, parting, ended, calm, attempt, parts, rfl, rfl⟩
  · rintro ⟨log, outcome, executed, keep, parting, ended, calm, attempt, parts, rfl, rfl⟩
    exact Shows.bind_iff.mpr ⟨(outcome, executed, keep), log, _,
      attachAndRun_shown.mpr ⟨calm, attempt⟩, leave_shown.mpr ⟨parting, ended, parts, rfl, rfl⟩,
      rfl⟩

/-- Undisturbed, a script shows exactly what its tree says. -/
theorem script_shown (settings : Settings) (program : Script) (overrides : Variables)
    (options : RunOptions) (trace : Log) (result : RunResult) :
    Shows (Run.script settings program overrides options) trace result ↔
      Undisturbed trace ∧ ScriptRuns settings program overrides options trace result := by
  rw [script_eq]
  constructor
  · intro seen
    refine ⟨seen.undisturbed, ?_⟩
    obtain ⟨started, _, _, begun, rfl⟩ := (Shows.request_bind_iff .now rfl).mp seen
    obtain ⟨_, _, _, turned, rfl⟩ :=
      (Shows.request_bind_iff (.acquire options.target) rfl).mp begun
    obtain ⟨log, outcome, executed, keep, parting, ended, _, attempt, parts, rfl, rfl⟩ :=
      takeTurn_shown.mp turned
    cases attempt with
    | unattached error =>
      rw [Bool.not_true, Bool.or_false] at parts
      exact .unattached parts
    | attached steps => exact .attached steps parts
  · rintro ⟨calm, run⟩
    have opens : ∀ started closing,
        Shows (takeTurn settings program overrides options started) closing result →
        Shows (do
          let started ← now
          acquire options.target
          takeTurn settings program overrides options started)
          (⟨.now, started⟩ :: ⟨.acquire options.target, ()⟩ :: closing) result := by
      intro started closing seen
      refine (Shows.request_bind_iff .now rfl).mpr ⟨started, _, trivial, ?_, rfl⟩
      exact (Shows.request_bind_iff (.acquire options.target) rfl).mpr
        ⟨(), closing, trivial, seen, rfl⟩
    have calmly : ∀ early late answered, trace = early ++ (answered ++ late) →
        Undisturbed answered := by
      rintro early late answered rfl
      exact (undisturbed_append.mp (undisturbed_append.mp calm).2).1
    cases run with
    | @unattached started ended error parting parts =>
      refine opens started _ (takeTurn_shown.mpr
        ⟨_, _, 0, true, parting, ended, calmly [_, _] _ [_] rfl, .unattached error, ?_, rfl, rfl⟩)
      rw [Bool.not_true, Bool.or_false]
      exact parts
    | @attached started ended count session log parting outcome steps parts =>
      exact opens started _ (takeTurn_shown.mpr
        ⟨_, outcome, count, session.keepAlive, parting, ended,
          calmly [_, _] _ (_ :: log) rfl, .attached steps, parts, rfl, rfl⟩)

/-! ## Counting -/

/-- What a silent program comes before reports all the progress. -/
theorem Silent.skip {first : RunProgram α} {next : α → RunProgram β} {log : Log} {result : β}
    (silent : Silent first) (run : Program.Transcript (first >>= next) log result) :
    ∃ value rest, Program.Transcript (next value) rest result ∧
      progressEvents log = progressEvents rest := by
  obtain ⟨value, opening, rest, start, finish, rfl⟩ := Program.Transcript.bind_iff.mp run
  refine ⟨value, rest, finish, ?_⟩
  rw [progressEvents_append, silent opening value start, List.nil_append]

theorem part_silent (target : String) (wanted : Bool) : Silent (part target wanted) := by
  intro log result run
  cases wanted with
  | false =>
    obtain ⟨rfl, _⟩ := Program.Transcript.pure_iff.mp run
    rfl
  | true =>
    obtain ⟨_, rest, finish, same⟩ := (Silent.request (.detach target) fun _ => rfl).skip run
    obtain ⟨rfl, _⟩ := Program.Transcript.pure_iff.mp finish
    exact same

theorem attachAndRun_tallied {settings : Settings} {program : Script} {vars : Variables}
    {target : String} {log : Log} {outcome : Except RunError Unit} {executed : Nat} {keep : Bool}
    (run : Program.Transcript (attachAndRun settings program vars target) log
      (outcome, executed, keep)) :
    executed = (progressEvents log).length := by
  obtain ⟨wanted, rest, run, same⟩ := (Silent.request .isCancelled fun _ => rfl).skip run
  rw [same]
  cases wanted with
  | true =>
    obtain ⟨rfl, result⟩ := Program.Transcript.pure_iff.mp run
    cases result
    rfl
  | false =>
    obtain ⟨answer, rest, run, same⟩ := (Silent.request (.attach target) fun _ => rfl).skip run
    rw [same]
    cases answer with
    | error error =>
      obtain ⟨rfl, result⟩ := Program.Transcript.pure_iff.mp run
      cases result
      rfl
    | ok session =>
      obtain ⟨⟨ended, state⟩, opening, closing, steps, finish, rfl⟩ :=
        Program.Transcript.bind_iff.mp run
      obtain ⟨rfl, result⟩ := Program.Transcript.pure_iff.mp finish
      cases result
      have counted := runSteps_tallied _ 0 program.steps _ opening _ state steps
      rw [List.append_nil, counted, Nat.zero_add]

theorem report_executed (target : String) (outcome : Except RunError Unit) (executed took : Nat) :
    (RunResult.report target outcome executed took).stepsExecuted = executed.toUInt64 := by
  cases outcome <;> rfl

/-- What a run reports as executed is what it has told of, however it goes. -/
theorem script_tallied {settings : Settings} {program : Script} {overrides : Variables}
    {options : RunOptions} {log : Log} {result : RunResult}
    (run : Program.Transcript (Run.script settings program overrides options) log result) :
    result.stepsExecuted = (progressEvents log).length.toUInt64 := by
  rw [script_eq] at run
  obtain ⟨started, _, turned, begun⟩ := now_local.silent.skip run
  obtain ⟨_, _, attached, inTurn⟩ :=
    (Silent.request (.acquire options.target) fun _ => rfl).skip turned
  obtain ⟨⟨outcome, executed, keep⟩, attempt, leaving, attempted, left, rfl⟩ :=
    Program.Transcript.bind_iff.mp attached
  obtain ⟨_, _, parted, unparted⟩ := (part_silent _ _).skip left
  obtain ⟨_, _, freed, released⟩ :=
    (Silent.request (.release options.target) fun _ => rfl).skip parted
  obtain ⟨ended, _, reported, told⟩ := now_local.silent.skip freed
  obtain ⟨rfl, rfl⟩ := Program.Transcript.pure_iff.mp reported
  have quiet : progressEvents leaving = [] := by
    rw [unparted, released, told]
    rfl
  rw [begun, inTurn, progressEvents_append, quiet, List.append_nil, report_executed,
    attachAndRun_tallied attempted]

/-- A run comes to its end in one way only, whatever rule it is answered by. Undisturbed, it does
exactly what the tree of its steps says, and it always counts as many steps as it reports. -/
theorem script_runs_as_tree (settings : Settings) (program : Script) (overrides : Variables)
    (options : RunOptions) :
    (∀ rule, ∃! run : Log × RunResult,
      Program.Transcript (Run.script settings program overrides options) run.1 run.2 ∧
        Program.Follows rule [] run.1) ∧
    (∀ trace result, Shows (Run.script settings program overrides options) trace result ↔
      Undisturbed trace ∧ ScriptRuns settings program overrides options trace result) ∧
    ∀ log result,
      Program.Transcript (Run.script settings program overrides options) log result →
        result.stepsExecuted = (progressEvents log).length.toUInt64 := by
  refine ⟨fun rule => Program.Transcript.exists_unique _ rule [], fun trace result => ?_,
    fun log result => script_tallied⟩
  exact script_shown settings program overrides options trace result

/-- A key is pressed inside a loop of two rounds. -/
theorem loop_runs_as_tree :
    ∃ program trace log result,
      ScriptRuns {} program Variables.empty ⟨"T1", false⟩ trace result ∧ visible log = trace ∧
      Program.Transcript (Run.script {} program Variables.empty ⟨"T1", false⟩) log result ∧
      (progressEvents trace).map (·.path) = ["0.0", "0.0", "0"] ∧
      result.stepsExecuted = (progressEvents log).length.toUInt64 := by
  let key : Step := .mk (.key "a" .down) none none none .null
  let program : Script :=
    ⟨"s", "", none, Variables.empty, [.mk (.steps [key]) none (some ⟨2, 5, none⟩) none .null]⟩
  let stage : Stage := ⟨⟨"s", Variables.empty, {}⟩, "S1", 0⟩
  have tried : Program.Transcript (perform {} "S1" 10000 (.key "a" .down)).run
      [⟨.page "S1" (.input (.keyDown "a")), .ok .null⟩] (.ok ()) :=
    Program.Transcript.bind_iff.mpr ⟨.ok .null, [_], [], Program.Transcript.bind_iff.mpr
      ⟨.ok .null, [_], [], Program.Transcript.request_iff.mpr rfl,
        Program.Transcript.pure_iff.mpr ⟨rfl, rfl⟩, rfl⟩,
      Program.Transcript.pure_iff.mpr ⟨rfl, rfl⟩, rfl⟩
  have leaf : ∀ children, Action.key "a" .down ≠ .steps children := fun _ same => by cases same
  have body : BodyRuns stage ⟨[0, 0], .keyEvent⟩ 10000 (.key "a" .down) _ 0 (.ok ()) :=
    @BodyRuns.single stage ⟨[0, 0], .keyEvent⟩ 10000 _ _ (.ok ()) leaf tried
  have pressed : StepRuns stage [0, 0] key _ 1 (.ok ()) :=
    .completed .unconditional (.once body)
  have round : BodyRuns stage ⟨[0], .nestedSteps⟩ 10000 (.steps [key]) _ 1 (.ok ()) :=
    .nested (.next pressed .over)
  have rounds : IterationsRun stage ⟨[0], .nestedSteps⟩ 10000 (.steps [key]) ⟨2, 5, none⟩ 2 true _
      2 (.ok ()) := .again .unconditional round (.again .unconditional round .over)
  have ran : ScriptRuns {} program Variables.empty ⟨"T1", false⟩ _ _ :=
    @ScriptRuns.attached _ _ _ _ 0 7 3 ⟨"T1", "S1", true, 1⟩ _ _ _
      (.next rfl (.completed .unconditional (.repeated rounds)) .over) .keep
  have meaning := script_runs_as_tree {} program Variables.empty ⟨"T1", false⟩
  have shown := fun calm => (meaning.2.1 _ _).mpr ⟨calm, ran⟩
  obtain ⟨log, _, same, run⟩ := shown (by
    simp [Undisturbed, Calm, between, pause, rested, Stage.reported])
  exact ⟨program, _, log, _, ran, same, run, rfl, meaning.2.2 log _ run⟩

end BrowserScript.Run

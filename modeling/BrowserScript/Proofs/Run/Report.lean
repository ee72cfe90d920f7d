import BrowserScript.Proofs.Run.Failure
import BrowserScript.Proofs.Run.Tally

/-!
# Reports of failures

A run that a step has ended reports that step: its path, its kind and its index, how it failed, and
how many steps were completed before. If no session can be had at all, it reports no step. Main
definitions: `Run.Pinned`, `Run.Exact`. Main result: `Run.script_reports_exactly`.
-/

set_option autoImplicit false

namespace BrowserScript

theorem RunError.code_ne_success (error : RunError) : error.code ≠ .success := by
  cases error with
  | stepFailed index path kind cause => cases cause <;> nofun
  | sessionLost | cancelled | setup => nofun

namespace Run

open Running

variable {α : Type}

/-! ## What an account counts -/

/-- Requests that neither report a step nor attach to anything. -/
def Request.isStill : Request → Bool
  | progress _ | attach _ => false
  | _ => true

namespace Account

/-- How many steps are reported as completed. -/
def completions (account : Account) : Nat := (progressEvents account.log).length

/-- Nothing is begun, completed or attached to. -/
def Still (account : Account) : Prop :=
  ∀ entry ∈ account, ∃ behalf request, entry.request = .asks behalf request ∧
    request.isStill = true

variable {account first second : Account}

theorem completions_append (first second : Account) :
    completions (first ++ second) = first.completions + second.completions := by
  have logs : log (first ++ second) = first.log ++ second.log := List.flatMap_append
  rw [completions, logs, progressEvents_append, List.length_append]
  rfl

theorem Still.completions (still : account.Still) : account.completions = 0 := by
  have nothing : progressEvents account.log = [] := by
    refine List.filterMap_eq_nil_iff.mpr fun exchange member => ?_
    obtain ⟨⟨note, answer⟩, inAccount, exchanged⟩ := List.mem_flatMap.mp member
    obtain ⟨behalf, request, rfl, quiet⟩ := still _ inAccount
    rw [List.mem_singleton.mp exchanged]
    cases request <;> first | rfl | cases quiet
  rw [Account.completions, nothing]
  rfl

theorem Still.spares (still : account.Still) (path : StepPath) : account.Spares path := by
  intro entry member
  obtain ⟨behalf, request, same, quiet⟩ := still entry member
  rw [same]
  refine ⟨nofun, ?_⟩
  rintro _ event ⟨⟩
  cases quiet

theorem Still.closes (still : account.Still) : account.Closes := by
  refine .silent fun entry member behalf event told => ?_
  obtain ⟨_, _, same, quiet⟩ := still entry member
  cases same.symm.trans told
  cases quiet

theorem Still.unattached (still : account.Still) {behalf : Option Activation} {target : String}
    {answer : (Note.asks behalf (.attach target)).Answer} :
    ⟨.asks behalf (.attach target), answer⟩ ∉ account := by
  intro member
  obtain ⟨_, _, same, quiet⟩ := still _ member
  cases same
  cases quiet

theorem Below.unattached {path : StepPath} (below : account.Below path)
    {behalf : Option Activation} {target : String}
    {answer : (Note.asks behalf (.attach target)).Answer} :
    ⟨.asks behalf (.attach target), answer⟩ ∉ account := fun member => below _ member

theorem Still.noted {log : Log} (behalf : Option Activation)
    (still : ∀ entry ∈ log, entry.request.isStill = true) : Still (log.noted behalf) := by
  intro entry member
  obtain ⟨made, inLog, rfl⟩ := List.mem_map.mp member
  exact ⟨behalf, made.request, rfl, still made inLog⟩

theorem Leaves.still (leaves : account.Leaves) : account.Still := by
  intro entry member
  obtain ⟨request, answer, rfl, leaving⟩ := leaves entry member
  refine ⟨none, request, rfl, ?_⟩
  cases request <;> first | rfl | cases leaving

end Account

theorem still_of_trial (request : Request) (trial : request.isTrial = true) :
    request.isStill = true := by
  cases request <;> first | rfl | cases trial

/-- A piece of a run, without its notes, exchanges what it does with them. -/
theorem Noted.goes_plain {piece : Noting α} {before after : RunState} {account : Account}
    {outcome : Except RunError α} (run : Goes piece before account outcome after) :
    Goes (Noted.plain piece) before account.log outcome after :=
  Program.Transcript.interpret_iff.mpr ⟨account, run, Note.carries_plain_iff.mpr rfl⟩

theorem steps_completions {context : RunContext} {index : Nat} {steps : List Step}
    {before after : RunState} {account : Account} {outcome : Except RunError Unit}
    (run : Goes (Noted.steps context index steps) before account outcome after) :
    after.executed = before.executed + account.completions := by
  have plain := Noted.goes_plain run
  rw [Noted.plain_steps] at plain
  exact runSteps_tallied context index steps _ _ _ _ plain

/-! ## What a report says -/

theorem Verdict.error?_place {verdict : Verdict} {index : Nat} {place : Place} {error : RunError}
    (known : verdict.error? index place = some error) :
    error.stepIndex = some index ∧ error.stepPath = some place.path.text ∧
      error.stepKind = some place.kind := by
  cases verdict with
  | done => cases known
  | fails cause | loses =>
    cases known
    exact ⟨rfl, rfl, rfl⟩

theorem Verdict.error?_code {verdict : Verdict} {index : Nat} {place : Place} {error : RunError}
    (known : verdict.error? index place = some error) :
    (error.code = .notFound ↔ ∃ selectors, verdict = .fails (.notFound selectors)) ∧
    (error.code = .stepFailed ↔
      ∃ cause, verdict = .fails cause ∧ ∀ selectors, cause ≠ .notFound selectors) ∧
    (error.code = .sessionLost ↔ verdict = .loses) := by
  cases verdict with
  | done => cases known
  | loses =>
    cases known
    simp [RunError.code]
  | fails cause =>
    cases known
    cases cause <;> simp [RunError.code]

/-- A step of this kind, at this path, has ended the run, and the report is about it. -/
structure Pinned (context : RunContext) (program : Script) (account : Account) (result : RunResult)
    (path : StepPath) (kind : StepKind) (verdict : Verdict) (early : Account) (last : Log)
    (late : Account) : Prop where
  /-- What it did last was on behalf of that step. -/
  parts : ∃ here : Activation, here.path = path ∧
    account = early ++ last.noted (some here) ++ late
  halts : Halts context program.steps path kind last verdict
  /-- The step is written in the script, provided that its steps have been read. -/
  written : (∀ step ∈ program.steps, ∃ source, Step.ofJson source = .ok step) →
    ∃ step, program.stepAt? path = some step ∧ step.kind = kind
  /-- After that the run only leaves, so the last page call of what failed is the last of all. -/
  leaves : late.Leaves
  /-- Neither the step nor any step around it has been completed since it was begun last. -/
  unfinished : ∀ around, around ≠ [] → around <+: path → account.Unfinished around
  stepPath : result.stepPath = some path.text
  stepKind : result.stepKind = some kind
  stepIndex : ∃ index, path.head? = some index ∧ result.stepIndex = some index.toUInt64
  notFound : result.code = .notFound ↔ ∃ selectors, verdict = .fails (.notFound selectors)
  stepFailed : result.code = .stepFailed ↔
    ∃ cause, verdict = .fails cause ∧ ∀ selectors, cause ≠ .notFound selectors
  sessionLost : result.code = .sessionLost ↔ verdict = .loses
  executed : result.stepsExecuted = early.completions.toUInt64

/-- What the report of a run says is so. -/
structure Exact (context : RunContext) (program : Script) (target : String) (account : Account)
    (result : RunResult) : Prop where
  success : result.success = true ↔ result.code = .success
  clear : result.success = true → result.error = none ∧ result.stepIndex = none ∧
    result.stepPath = none ∧ result.stepKind = none
  closes : account.Closes
  executed : result.stepsExecuted = account.completions.toUInt64
  /-- No session could be had at first. -/
  unattached : ∀ behalf other (error : PageError),
    ⟨.asks behalf (.attach other), .error error⟩ ∈ account →
      other = target ∧ result.code = .sessionLost ∧ result.stepIndex = none ∧
        result.stepPath = none ∧ result.stepKind = none ∧ result.stepsExecuted = 0
  /-- Otherwise a step is to blame. -/
  failed : result.code ∈ [.stepFailed, .notFound, .sessionLost] →
    (∃ behalf, ∃ error : PageError, ⟨.asks behalf (.attach target), .error error⟩ ∈ account) ∨
    ∃ path kind verdict early last late,
      Pinned context program account result path kind verdict early last late

section

variable {context : RunContext} {program : Script} {account late : Account} {path : StepPath}
  {kind : StepKind} {last : Log} {verdict : Verdict}

theorem Halts.written (halts : Halts context program.steps path kind last verdict)
    (read : ∀ step ∈ program.steps, ∃ source, Step.ofJson source = .ok step) :
    ∃ step, program.stepAt? path = some step ∧ step.kind = kind := by
  cases halts with
  | operation runs own undone =>
    obtain ⟨written, found, rfl⟩ := running?_as_written read runs
    exact ⟨written, found, (Step.kind_mapText _ written).symm⟩
  | @unfilled index step error written unread =>
    refine ⟨step, ?_, rfl⟩
    rw [Script.stepAt?, written]
    rfl

/-- What a run that fails reports, whatever it does on its way out. -/
theorem Faulty.pinned {error : RunError} (faulty : Faulty context program.steps [] account error)
    (leaves : late.Leaves) (target : String) (executed took : Nat)
    (counted : executed = account.completions) :
    ∃ path kind verdict early last, Pinned context program (account ++ late)
      (.report target (.error error) executed took) path kind verdict early last late := by
  cases faulty with
  | @intro path kind index early here log verdict _ halts behalf onWay top known unfinished =>
    have still : Account.Still (log.noted (some here)) :=
      .noted _ fun entry member => still_of_trial _ (halts.trials entry member)
    rw [Account.completions_append, still.completions, Nat.add_zero] at counted
    subst counted
    obtain ⟨atIndex, atPath, ofKind⟩ := Verdict.error?_place known
    obtain ⟨notFound, stepFailed, sessionLost⟩ := Verdict.error?_code known
    refine ⟨path, kind, verdict, early, log, ⟨here, behalf, rfl⟩, halts, halts.written, leaves,
      fun around some prefixed => ?_, atPath, ofKind, ⟨index, top, ?_⟩, notFound, stepFailed,
      sessionLost, rfl⟩
    · obtain ⟨first, rest, rfl⟩ := List.exists_cons_of_ne_nil some
      have begun := unfinished _ ⟨first, rest, rfl⟩ prefixed
      exact (begun.append (still.spares _)).append (leaves.still.spares _)
    · exact congrArg (Option.map Nat.toUInt64) atIndex

end

/-! ## The whole run -/

/-- An attempt to attach and to run the steps of a script, and how it ends. -/
structure Attempt (context : RunContext) (program : Script) (target : String) (account : Account)
    (outcome : Except RunError Unit) (executed : Nat) : Prop where
  closes : account.Closes
  counted : executed = account.completions
  unattached : ∀ behalf other (error : PageError),
    ⟨.asks behalf (.attach other), .error error⟩ ∈ account →
      other = target ∧ executed = 0 ∧ ∃ reason, outcome = .error (.setup reason)
  blames : ∀ error, outcome = .error error →
    (∃ index, error = .cancelled index) ∨
    (∃ reason, error = .setup reason ∧ ∃ behalf, ∃ error : PageError,
      ⟨.asks behalf (.attach target), .error error⟩ ∈ account) ∨
    Faulty context program.steps [] account error

theorem attachAndRun_attempt {settings : Settings} {program : Script} {vars : Variables}
    {target : String} {account : Account} {outcome : Except RunError Unit} {executed : Nat}
    {keep : Bool}
    (attaches : Noted.Attaches settings program vars target account (outcome, executed, keep)) :
    Attempt ⟨program.id, vars, settings⟩ program target account outcome executed := by
  cases attaches with
  | stopped =>
    refine ⟨.single nofun, rfl, fun _ _ _ member => ?_, ?_⟩
    · cases List.mem_singleton.mp member
    · rintro _ ⟨⟩
      exact .inl ⟨0, rfl⟩
  | refused error =>
    refine ⟨.silent (by simp), rfl, fun behalf other failure member => ?_, ?_⟩
    · iterate 2 obtain _ | ⟨_, member⟩ := member
      obtain _ | ⟨_, ⟨⟩⟩ := member
      exact ⟨rfl, rfl, error.message, rfl⟩
    · rintro _ ⟨⟩
      exact .inr (.inl ⟨error.message, rfl, some .whole, error, by simp⟩)
  | @attached session account _ state run =>
    have opens : Account.Closes [⟨.checks .whole, false⟩, ⟨.begins .whole, ()⟩,
        ⟨.asks (some .whole) (.attach target), .ok session⟩] := .silent (by simp)
    obtain ⟨located, -⟩ := steps_report ⟨program.id, vars, settings⟩ program.steps program.steps 0
      (fun offset => by rw [Nat.zero_add]) _ _ _ _ trivial run
    have counted := steps_completions run
    refine ⟨opens.append located.closes, counted.trans (Nat.zero_add _),
      fun behalf other failure member => ?_, fun error failed => ?_⟩
    · iterate 3 obtain _ | ⟨_, member⟩ := member
      exact absurd member located.below.unattached
    · rcases located.blames error failed with stopped | faulty
      · exact .inl stopped
      · exact .inr (.inr (faulty.prepend [_, _, _]))

/-- What is done before the attempt and after it attaches to nothing and completes nothing. -/
theorem Attempt.exact {context : RunContext} {program : Script} {target : String}
    {opening account late : Account} {outcome : Except RunError Unit} {executed : Nat}
    (attempt : Attempt context program target account outcome executed)
    (opens : opening.Still) (leaves : late.Leaves) (took : Nat) :
    Exact context program target (opening ++ (account ++ late))
      (.report target outcome executed took) := by
  have still := leaves.still
  have inside : ∀ {behalf : Option Activation} {other : String} {error : PageError},
      ⟨.asks behalf (.attach other), .error error⟩ ∈ opening ++ (account ++ late) →
        ⟨.asks behalf (.attach other), .error error⟩ ∈ account := by
    intro behalf other error member
    rcases List.mem_append.mp member with early | member
    · exact absurd early opens.unattached
    · exact (List.mem_append.mp member).resolve_right still.unattached
  have before : executed = Account.completions (opening ++ account) := by
    rw [Account.completions_append, opens.completions, Nat.zero_add, attempt.counted]
  have counted : executed = Account.completions (opening ++ (account ++ late)) := by
    rw [← List.append_assoc, Account.completions_append, still.completions, ← before, Nat.add_zero]
  have closes := opens.closes.append (attempt.closes.append still.closes)
  cases outcome with
  | ok value =>
    refine ⟨⟨fun _ => rfl, fun _ => rfl⟩, fun _ => ⟨rfl, rfl, rfl, rfl⟩, closes,
      congrArg Nat.toUInt64 counted, fun behalf other error member => ?_, fun failed => ?_⟩
    · obtain ⟨_, _, _, same⟩ := attempt.unattached behalf other error (inside member)
      cases same
    · simp [RunResult.report] at failed
  | error error =>
    refine ⟨⟨nofun, fun same => ?_⟩, nofun, closes, congrArg Nat.toUInt64 counted,
      fun behalf other failure member => ?_, fun failed => ?_⟩
    · exact absurd same error.code_ne_success
    · obtain ⟨rfl, rfl, reason, same⟩ := attempt.unattached behalf other failure (inside member)
      cases same
      exact ⟨rfl, rfl, rfl, rfl, rfl, rfl⟩
    · rcases attempt.blames error rfl with
        ⟨index, rfl⟩ | ⟨reason, rfl, behalf, failure, member⟩ | faulty
      · simp [RunResult.report, RunError.code] at failed
      · exact .inl ⟨behalf, failure, List.mem_append_right _ (List.mem_append_left _ member)⟩
      · obtain ⟨path, kind, verdict, early, last, pinned⟩ :=
          (faulty.prepend opening).pinned leaves target executed took before
        rw [List.append_assoc] at pinned
        exact .inr ⟨path, kind, verdict, early, last, late, pinned⟩

/-- Failure reports are exact. What a run exchanges is what the run with notes exchanges, its notes
left out, and however it is answered it comes to an end; its report then says what its notes say. -/
theorem script_reports_exactly (settings : Settings) (program : Script) (overrides : Variables)
    (options : RunOptions) :
    (∀ log result,
      Program.Transcript (Run.script settings program overrides options) log result ↔
        ∃ account : Account, Program.Transcript
          (Noted.script settings program overrides options) account result ∧ account.log = log) ∧
    (∀ rule, ∃! run : Account × RunResult,
      Program.Transcript (Noted.script settings program overrides options) run.1 run.2 ∧
        Program.Follows rule [] run.1) ∧
    ∀ account result,
      Program.Transcript (Noted.script settings program overrides options) account result →
        Exact ⟨program.id, program.parameters.merge overrides, settings⟩ program options.target
          account result := by
  refine ⟨fun log result => Noted.transcript_iff,
    fun rule => Program.Transcript.exists_unique _ rule [], fun account result run => ?_⟩
  obtain ⟨started, attempt, leaving, outcome, executed, keep, took, rfl, attaches, leaves, rfl⟩ :=
    Noted.script_parts run
  have opens : Account.Still
      [⟨.asks none .now, started⟩, ⟨.asks none (.acquire options.target), ()⟩] :=
    List.forall_mem_cons.mpr ⟨⟨_, _, rfl, rfl⟩, List.forall_mem_singleton.mpr ⟨_, _, rfl, rfl⟩⟩
  exact (attachAndRun_attempt attaches).exact opens leaves took

/-- In the second round of a loop a nested step fails that was completed in the first one. The
report names that step, and counts what was completed in the first round. -/
theorem second_round_reported :
    ∃ program account result,
      Program.Transcript (Noted.script {} program Variables.empty ⟨"T1", false⟩) account result ∧
      Exact ⟨program.id, program.parameters.merge Variables.empty, {}⟩ program "T1" account result ∧
      result.code = .stepFailed ∧ result.stepPath = some "0.0" ∧
      result.stepKind = some .keyEvent ∧ result.stepIndex = some 0 ∧ result.stepsExecuted = 1 := by
  let program : Script := ⟨"s", "", none, Variables.empty,
    [.mk (.steps [.mk (.key "a" .down) none none none .null]) none (some ⟨2, 0, none⟩) none .null]⟩
  let account : Account := [⟨.asks none .now, (3 : Nat)⟩, ⟨.asks none (.acquire "T1"), ()⟩,
    ⟨.checks .whole, false⟩, ⟨.begins .whole, ()⟩,
    ⟨.asks (some .whole) (.attach "T1"), .ok ⟨"T1", "S1", true, 1⟩⟩,
    ⟨.checks (.step [0]), false⟩, ⟨.begins (.step [0]), ()⟩,
    ⟨.checks (.iteration [0] 0), false⟩, ⟨.begins (.iteration [0] 0), ()⟩,
    ⟨.checks (.step [0, 0]), false⟩, ⟨.begins (.step [0, 0]), ()⟩,
    ⟨.asks (some (.step [0, 0])) (.page "S1" (.input (.keyDown "a"))), .ok .null⟩,
    ⟨.asks none (.progress ⟨"s", 0, "0.0", .keyEvent⟩), ()⟩,
    ⟨.checks (.iteration [0] 1), false⟩, ⟨.begins (.iteration [0] 1), ()⟩,
    ⟨.checks (.step [0, 0]), false⟩, ⟨.begins (.step [0, 0]), ()⟩,
    ⟨.asks (some (.step [0, 0])) (.page "S1" (.input (.keyDown "a"))), .error (.evaluation "no")⟩,
    ⟨.asks none (.release "T1"), ()⟩, ⟨.asks none .now, (7 : Nat)⟩]
  have run : Program.Transcript (Noted.script {} program Variables.empty ⟨"T1", false⟩) account _ :=
    .ask _ (.ask _ (.ask _ (.ask _ (.ask _ (.ask _ (.ask _ (.ask _ (.ask _ (.ask _ (.ask _ (.ask _
      (.ask _ (.ask _ (.ask _ (.ask _ (.ask _ (.ask _ (.ask _ (.ask _ (.done _))))))))))))))))))))
  have exact := (script_reports_exactly {} program Variables.empty ⟨"T1", false⟩).2.2 account _ run
  exact ⟨program, account, _, run, exact, rfl, rfl, rfl, rfl, rfl⟩

end Run

end BrowserScript

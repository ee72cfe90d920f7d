import BrowserScript.Proofs.Run.Noted
import BrowserScript.Relay.Worker

/-!
# Handling a command

The worker answers a command without running anything, or it finds a script, loads it and runs it
once, under a cancel flag of its own. Main definitions: `Worker.Seeks`, `Worker.Handled`. Main
results: `Worker.handled_of_transcript`, `Worker.Handled.of_loaded`, `Worker.Handled.tallied`.
-/

set_option autoImplicit false

namespace BrowserScript

namespace Program

variable {Q R : Type} {A : Q → Type} {B : R → Type}

/-- Goes through a program with the answers of a log, while it makes the requests of the log. -/
def replay [DecidableEq Q] {α : Type} : Program Q A α → List (Entry Q A) → Option α
  | done result, [] => some result
  | ask request next, entry :: rest =>
    if same : entry.request = request then replay (next (same ▸ entry.answer)) rest else none
  | _, _ => none

theorem replay_eq_some_iff [DecidableEq Q] {α : Type} {program : Program Q A α}
    {log : List (Entry Q A)} {result : α} :
    replay program log = some result ↔ Transcript program log result := by
  induction program generalizing log with
  | done value =>
    cases log with
    | nil =>
      rw [replay, Option.some.injEq]
      refine ⟨fun same => same ▸ .done value, fun run => ?_⟩
      cases run
      rfl
    | cons entry rest =>
      refine ⟨fun ends => (by cases ends), fun run => ?_⟩
      cases run
  | ask request next induction =>
    cases log with
    | nil =>
      refine ⟨fun ends => (by cases ends), fun run => ?_⟩
      cases run
    | cons entry rest =>
      obtain ⟨asked, answer⟩ := entry
      rw [replay]
      split
      · next same =>
        cases same
        constructor
        · exact fun ends => .ask answer ((induction answer).mp ends)
        · intro run
          cases run with
          | ask _ onward => exact (induction answer).mpr onward
      · next different =>
        refine ⟨fun ends => (by cases ends), fun run => ?_⟩
        cases run
        exact absurd rfl different

/-- Whether a program can have a transcript is found by going through it. -/
instance [DecidableEq Q] {α : Type} [DecidableEq α] (program : Program Q A α)
    (log : List (Entry Q A)) (result : α) : Decidable (Transcript program log result) :=
  decidable_of_iff _ replay_eq_some_iff

end Program

namespace Worker

open Program

/-- What the worker exchanges with its surroundings. -/
abbrev Log : Type := List (Entry Request Request.Answer)

/-- An exchange of a run as the worker makes it. -/
def flagged (flag : Relay.FlagId) : Entry Run.Request Run.Request.Answer →
    Entry Request Request.Answer
  | ⟨.isCancelled, answer⟩ => ⟨.isCancelled flag, answer⟩
  | ⟨request, answer⟩ => ⟨.run request, answer⟩

/-- The part of a run in an exchange of the worker. -/
def runPart? : Entry Request Request.Answer → Option (Entry Run.Request Run.Request.Answer)
  | ⟨.run request, answer⟩ => some ⟨request, answer⟩
  | ⟨.isCancelled _, answer⟩ => some ⟨.isCancelled, answer⟩
  | _ => none

/-- What a run exchanges, out of what the worker exchanges. -/
def runPart (log : Log) : Run.Log := log.filterMap runPart?

theorem runPart_append (before after : Log) :
    runPart (before ++ after) = runPart before ++ runPart after := List.filterMap_append

theorem runPart_flagged (flag : Relay.FlagId) (runLog : Run.Log) :
    runPart (runLog.map (flagged flag)) = runLog := by
  have same : runPart? ∘ flagged flag = some := by
    funext entry
    obtain ⟨request, answer⟩ := entry
    cases request <;> rfl
  rw [runPart, List.filterMap_map, same, List.filterMap_some]

theorem underFlag_transcript_iff (flag : Relay.FlagId) (request : Run.Request) (part : Log)
    (answer : request.Answer) :
    Transcript (underFlag flag request) part answer ↔ part = [flagged flag ⟨request, answer⟩] := by
  cases request <;> exact Transcript.request_iff

/-- What the worker exchanges while it runs a script. -/
theorem run_transcript_iff {program : RunProgram RunResult} {flag : Relay.FlagId} {log : Log}
    {result : RunResult} :
    Transcript (program.interpret (underFlag flag)) log result ↔
      ∃ runLog, Transcript program runLog result ∧ log = runLog.map (flagged flag) := by
  rw [Transcript.interpret_iff]
  simp only [carries_single_iff (underFlag_transcript_iff flag)]

/-- The script a command makes the worker look for, what it is to be run with, and what the worker
has exchanged to find out. -/
inductive Seeks (config : Config) : Command → Log → String → Variables → RunOptions → Prop
  | named (scriptId : String) (parameters : Variables) (wanted : Option String) (detach : Bool)
      (target : String) :
      wanted.or config.defaultTarget = some target →
      Seeks config (.runScript scriptId parameters wanted detach) [] scriptId parameters
        ⟨target, detach⟩
  | understood (text : String) (wanted : Option String) (intent : IntentMatch)
      (scriptId target : String) :
      config.hasClassifier = true → intent.scriptReference = some scriptId →
      wanted.or config.defaultTarget = some target →
      Seeks config (.processIntent text wanted) [⟨.classify text, some intent⟩] scriptId
        intent.parameters ⟨target, false⟩

/-- What the worker exchanges once it knows the script. -/
def session (scriptId : String) (script : Script) (flag : Relay.FlagId) (runLog : Run.Log) : Log :=
  ⟨.load scriptId, .ok script⟩ :: ⟨.register scriptId, flag⟩ ::
    (runLog.map (flagged flag) ++ [⟨.unregister scriptId flag, ()⟩])

/-- An exchange that has to do with no script. -/
def Aside : Entry Request Request.Answer → Prop
  | ⟨.load _, .ok _⟩ => False
  | _ => True

/-- What handling a command can come to: a run of the script it means, or an answer without one. -/
inductive Handled (config : Config) (command : Command) : Log → Reply → Prop
  | ran {opening : Log} {scriptId : String} {parameters : Variables} {options : RunOptions}
      (sought : Seeks config command opening scriptId parameters options) (script : Script)
      (flag : Relay.FlagId) (runLog : Run.Log) (result : RunResult)
      (run : Transcript (Run.script config.settings script parameters options) runLog result) :
      Handled config command (opening ++ session scriptId script flag runLog) (.execution result)
  | answered (log : Log) (reply : Reply) :
      (∀ entry ∈ log, Aside entry) → (∀ result, reply ≠ .execution result) →
      Handled config command log reply

/-- A command that takes one request and comes to an answer at once. -/
private theorem handled_of_one {config : Config} {command : Command} {log : Log} {reply : Reply}
    (request : Request) {next : request.Answer → WorkerProgram Reply}
    (aside : ∀ answer, Aside ⟨request, answer⟩)
    (ends : ∀ answer, ∃ reply, next answer = pure reply ∧ ∀ result, reply ≠ .execution result)
    (run : Transcript (Program.request request >>= next) log reply) :
    Handled config command log reply := by
  obtain ⟨answer, _, _, asked, onward, rfl⟩ := Transcript.bind_iff.mp run
  obtain rfl := Transcript.request_iff.mp asked
  obtain ⟨_, same, other⟩ := ends answer
  rw [same] at onward
  obtain ⟨rfl, rfl⟩ := Transcript.pure_iff.mp onward
  exact .answered _ _ (by simpa using aside answer) other

/-- Once the script is known it is run, unless it cannot be loaded or there is no target. -/
private theorem runScript_handled {config : Config} {command : Command} {opening log : Log}
    {scriptId : String} {parameters : Variables} {wanted : Option String} {detach : Bool}
    {reply : Reply}
    (run : Transcript (runScript config scriptId parameters wanted detach) log reply)
    (sought : ∀ target, wanted.or config.defaultTarget = some target →
      Seeks config command opening scriptId parameters ⟨target, detach⟩)
    (aside : ∀ entry ∈ opening, Aside entry) :
    Handled config command (opening ++ log) reply := by
  unfold runScript at run
  cases chosen : wanted.or config.defaultTarget with
  | none =>
    rw [chosen] at run
    obtain ⟨rfl, rfl⟩ := Transcript.pure_iff.mp run
    exact .answered _ _ (by simpa using aside) fun _ same => by cases same
  | some target =>
    rw [chosen] at run
    obtain ⟨loaded, _, rest, asked, onward, rfl⟩ := Transcript.bind_iff.mp run
    obtain rfl := Transcript.request_iff.mp asked
    cases loaded with
    | error error =>
      obtain ⟨rfl, rfl⟩ := Transcript.pure_iff.mp onward
      refine .answered _ _ ?_ fun _ same => by cases same
      exact List.forall_mem_append.mpr ⟨aside, by simp [Aside]⟩
    | ok script =>
      obtain ⟨flag, _, _, registered, inPlace, rfl⟩ := Transcript.bind_iff.mp onward
      obtain rfl := Transcript.request_iff.mp registered
      obtain ⟨result, _, _, interpreted, leaving, rfl⟩ := Transcript.bind_iff.mp inPlace
      obtain ⟨runLog, went, rfl⟩ := run_transcript_iff.mp interpreted
      obtain ⟨_, _, _, unregistered, last, rfl⟩ := Transcript.bind_iff.mp leaving
      obtain rfl := Transcript.request_iff.mp unregistered
      obtain ⟨rfl, rfl⟩ := Transcript.pure_iff.mp last
      exact .ran (sought target chosen) script flag runLog result went

/-- Whatever the worker is answered, it handles a command in one of these ways. -/
theorem handled_of_transcript {config : Config} {command : Command} {log : Log} {reply : Reply}
    (run : Transcript (handle config command) log reply) : Handled config command log reply := by
  cases command with
  | runScript scriptId parameters wanted detach =>
    exact runScript_handled run (fun target chosen => .named _ _ _ _ target chosen)
      (List.forall_mem_nil _)
  | processIntent text wanted =>
    change Transcript (processIntent config text wanted) log reply at run
    unfold processIntent at run
    split at run
    · next classifies =>
      obtain ⟨found, _, _, asked, onward, rfl⟩ := Transcript.bind_iff.mp run
      obtain rfl := Transcript.request_iff.mp asked
      cases found with
      | none =>
        obtain ⟨rfl, rfl⟩ := Transcript.pure_iff.mp onward
        exact .answered _ _ (by simp [Aside]) fun _ same => by cases same
      | some intent =>
        dsimp only at onward
        cases named : intent.scriptReference with
        | none =>
          rw [named] at onward
          obtain ⟨rfl, rfl⟩ := Transcript.pure_iff.mp onward
          exact .answered _ _ (by simp [Aside]) fun _ same => by cases same
        | some scriptId =>
          rw [named] at onward
          exact runScript_handled onward
            (fun target chosen => .understood _ _ _ _ target classifies named chosen)
            (by simp [Aside])
    · obtain ⟨rfl, rfl⟩ := Transcript.pure_iff.mp run
      exact .answered _ _ (List.forall_mem_nil _) fun _ same => by cases same
  | attach target =>
    refine handled_of_one (.run (.attach target)) (fun _ => trivial) (fun answer => ?_) run
    cases answer <;> exact ⟨_, rfl, fun _ same => by cases same⟩
  | detach target =>
    refine handled_of_one (.run (.detach target)) (fun _ => trivial) (fun answer => ?_) run
    cases answer <;> exact ⟨_, rfl, fun _ same => by cases same⟩
  | cancel scriptId =>
    refine handled_of_one (.cancel scriptId) (fun _ => trivial) (fun answer => ?_) run
    exact ⟨_, rfl, fun _ same => by cases same⟩

/-! ## The run in it -/

theorem Seeks.runPart_nil {config : Config} {command : Command} {opening : Log} {scriptId : String}
    {parameters : Variables} {options : RunOptions}
    (sought : Seeks config command opening scriptId parameters options) : runPart opening = [] := by
  cases sought <;> rfl

theorem runPart_session (scriptId : String) (script : Script) (flag : Relay.FlagId)
    (runLog : Run.Log) : runPart (session scriptId script flag runLog) = runLog := by
  change runPart (runLog.map (flagged flag) ++ [_]) = runLog
  rw [runPart_append, runPart_flagged]
  exact List.append_nil runLog

/-- The worker loads a script only for the run it makes of it. -/
theorem Handled.of_loaded {config : Config} {command : Command} {log : Log} {reply : Reply}
    (handled : Handled config command log reply) {scriptId : String} {script : Script}
    (loaded : ⟨.load scriptId, .ok script⟩ ∈ log) :
    ∃ opening parameters options result,
      Seeks config command opening scriptId parameters options ∧ opening <+: log ∧
      reply = .execution result ∧
      Transcript (Run.script config.settings script parameters options) (runPart log) result := by
  cases handled with
  | @ran opening id parameters options sought program flag runLog result run =>
    have before : ⟨.load scriptId, .ok script⟩ ∉ opening := by
      intro member
      cases sought with
      | named => cases member
      | understood => cases List.mem_singleton.mp member
    have within : ⟨.load scriptId, .ok script⟩ ∉ runLog.map (flagged flag) := by
      rw [List.mem_map]
      rintro ⟨⟨request, answer⟩, _, same⟩
      cases request <;> cases same
    obtain ⟨rfl, rfl⟩ : scriptId = id ∧ script = program := by
      rcases List.mem_append.mp loaded with early | inSession
      · exact absurd early before
      rcases List.mem_cons.mp inSession with same | later
      · cases same
        exact ⟨rfl, rfl⟩
      rcases List.mem_cons.mp later with same | later
      · cases same
      rcases List.mem_append.mp later with running | last
      · exact absurd running within
      · cases List.mem_singleton.mp last
    refine ⟨opening, parameters, options, result, sought, List.prefix_append _ _, rfl, ?_⟩
    rw [runPart_append, sought.runPart_nil, runPart_session]
    exact run
  | answered _ _ aside _ => exact (aside _ loaded).elim

/-- The progress that handling a command has reported, in order. -/
def progressEvents (log : Log) : List ProgressEvent := Run.progressEvents (runPart log)

theorem progressEvents_append (before after : Log) :
    progressEvents (before ++ after) = progressEvents before ++ progressEvents after := by
  rw [progressEvents, runPart_append, Run.progressEvents_append]
  rfl

/-- A report counts the progress that came before it. -/
theorem Handled.tallied {config : Config} {command : Command} {log : Log} {result : RunResult}
    (handled : Handled config command log (.execution result)) :
    result.stepsExecuted = (progressEvents log).length.toUInt64 := by
  cases handled with
  | ran sought script flag runLog _ run =>
    rw [progressEvents, runPart_append, sought.runPart_nil, runPart_session, List.nil_append]
    exact Run.script_tallied run
  | answered _ _ aside other => exact absurd rfl (other result)

end Worker

end BrowserScript

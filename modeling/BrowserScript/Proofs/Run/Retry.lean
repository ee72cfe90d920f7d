import BrowserScript.Proofs.Run.Standing
import BrowserScript.Proofs.Run.Tries

/-!
# Retries

However a run is answered, it tries every operation once, and once more only on a later session of
the same target. Any other failure ends the run, and so does the loss of the second session. Main
definitions: `Run.Retries`, `Run.Diary.Bounded`. Main result: `Run.script_retries_once`.
-/

set_option autoImplicit false

namespace BrowserScript.Run

open Running

variable {α β : Type} {settings : Settings} {before after : RunState} {diary : Diary}

/-! ## Pieces of a run -/

/-- Only an operation that ends the run has ended it like this. -/
def Concludes (ending : Option (Place × Verdict)) (outcome : Except RunError α) : Prop :=
  ∀ place verdict, ending = some (place, verdict) →
    ∃ index error, verdict.error? index place = some error ∧ outcome = .error error

/-- However a piece of a run is answered, it goes from session to session through operations that
are tried as they are to be, provided that recovered sessions are later ones. -/
def Retries (settings : Settings) (piece : Marking α) : Prop :=
  ∀ before diary outcome after, Goes piece before diary outcome after → Diary.Recovered diary →
    ∃ ending, Spans settings before.session diary ending after.session ∧ Concludes ending outcome

theorem concludes_none {outcome : Except RunError α} : Concludes none outcome :=
  fun _ _ same => by cases same

namespace Retries

theorem pure (value : α) : Retries settings (Pure.pure value) := by
  intro before diary outcome after run _
  obtain ⟨rfl, rfl, rfl⟩ := Goes.pure_iff.mp run
  exact ⟨none, .rests _, concludes_none⟩

theorem throw (error : RunError) : Retries settings (throw error : Marking α) := by
  intro before diary outcome after run _
  obtain ⟨rfl, rfl, rfl⟩ := Goes.throw_iff.mp run
  exact ⟨none, .rests _, concludes_none⟩

theorem throw_bind (error : RunError) (next : α → Marking β) :
    Retries settings (MonadExcept.throw error >>= next) := throw (α := β) error

theorem bind {first : Marking α} {next : α → Marking β} (early : Retries settings first)
    (late : ∀ value, Retries settings (next value)) : Retries settings (first >>= next) := by
  intro before diary outcome after run recovered
  rcases Goes.bind_iff.mp run with
    ⟨error, failed, rfl⟩ | ⟨value, middle, opening, closing, start, finish, rfl⟩
  · obtain ⟨ending, spans, concludes⟩ := early before diary _ after failed recovered
    refine ⟨ending, spans, fun place verdict same => ?_⟩
    obtain ⟨index, error, known, same⟩ := concludes place verdict same
    cases same
    exact ⟨index, error, known, rfl⟩
  · obtain ⟨recoveredFirst, recoveredLater⟩ := recovered.of_append
    obtain ⟨ending, spans, concludes⟩ := early before opening _ middle start recoveredFirst
    obtain ⟨later, onward, concludesToo⟩ :=
      late value middle closing outcome after finish recoveredLater
    cases ending with
    | none => exact ⟨later, spans.append rfl onward, concludesToo⟩
    | some ending =>
      obtain ⟨_, _, _, same⟩ := concludes ending.1 ending.2 rfl
      cases same

theorem get_bind {next : RunState → Marking β} (rest : ∀ state, Retries settings (next state)) :
    Retries settings (get >>= next) := fun before diary outcome after run =>
  rest before before diary outcome after (Goes.get_bind_iff.mp run)

theorem modify_bind {change : RunState → RunState} {next : PUnit → Marking β}
    (same : ∀ state, (change state).session = state.session) (rest : Retries settings (next ⟨⟩)) :
    Retries settings (modify change >>= next) := by
  intro before diary outcome after run recovered
  obtain ⟨ending, spans, concludes⟩ :=
    rest (change before) diary outcome after (Goes.modify_bind_iff.mp run) recovered
  exact ⟨ending, same before ▸ spans, concludes⟩

/-- A request that is none of an operation's. -/
theorem request (request : Request) (other : (Mark.asks request).isWork = false) :
    Retries settings (Marked.asks (ask (Program.request request))) := by
  intro before diary outcome after run _
  obtain ⟨log, asked, rfl⟩ := Marked.asks_goes.mp run
  obtain ⟨answer, made, rfl, rfl⟩ := Goes.ask_iff.mp asked
  obtain rfl := Program.Transcript.request_iff.mp made
  exact ⟨none, .asks other (.rests _), concludes_none⟩

end Retries

/-! ## Operations -/

section

variable {operation : Operation} {place : Place} {outcome : Except RunError α}
  {session last : SessionHandle} {part : Diary} {verdict : Verdict}

theorem sessionLost_goes (run : Goes (Marked.asks (sessionLost place)) before diary outcome after) :
    diary = [] ∧ outcome = .error (.sessionLost before.index place.path.text place.kind) ∧
      after = before := by
  obtain ⟨_, lost, rfl⟩ := Marked.asks_goes.mp run
  obtain ⟨rfl, rfl, rfl⟩ := Goes.throw_iff.mp (Goes.get_bind_iff.mp lost)
  exact ⟨rfl, rfl, rfl⟩

theorem stepFailed_goes {cause : StepFailure}
    (run : Goes (Marked.asks (stepFailed place cause)) before diary outcome after) :
    diary = [] ∧ outcome = .error (.stepFailed before.index place.path.text place.kind cause) ∧
      after = before := by
  obtain ⟨_, failed, rfl⟩ := Marked.asks_goes.mp run
  obtain ⟨rfl, rfl, rfl⟩ := Goes.throw_iff.mp (Goes.get_bind_iff.mp failed)
  exact ⟨rfl, rfl, rfl⟩

/-- An operation that is done. -/
theorem Tries.goes_on (tries : Tries settings operation.task session part .done last) :
    ∃ ending, Spans settings session (⟨.begins operation, ()⟩ :: part) ending last ∧
      Concludes ending outcome := by
  have works := Spans.works tries (.rests last)
  rw [List.append_nil] at works
  exact ⟨none, works, concludes_none⟩

/-- An operation that ends its run. -/
theorem Tries.ends_run {index : Nat} {error : RunError}
    (tries : Tries settings operation.task session part verdict last)
    (known : verdict.error? index operation.place = some error)
    (same : outcome = .error error) :
    ∃ ending, Spans settings session (⟨.begins operation, ()⟩ :: part) ending last ∧
      Concludes ending outcome := by
  have undone : verdict ≠ .done := by
    rintro rfl
    cases known
  have nothing : Diary.Leaves [] := nofun
  have ends := Spans.ends tries undone nothing
  rw [List.append_nil] at ends
  refine ⟨_, ends, ?_⟩
  rintro _ _ ⟨⟩
  exact ⟨index, error, known, same⟩

end

/-- An operation is tried as it is to be. -/
theorem guarded_retries (settings : Settings) (operation : Operation) :
    Retries settings (Marked.guarded settings operation) := by
  intro before diary outcome after run recovered
  obtain ⟨_, first, rfl⟩ := Marked.begins_bind run
  rw [Goes.get_bind_iff] at first
  obtain ⟨log, result, later, tried, onward, rfl⟩ := Marked.attempt_bind first
  have attempt : Attempted settings operation.task before.session _ _ := .intro tried
  cases result with
  | ok value =>
    obtain ⟨rfl, rfl, rfl⟩ := Goes.pure_iff.mp onward
    rw [List.append_nil]
    exact (Tries.once attempt nofun).goes_on
  | error cause =>
    dsimp only at onward
    split at onward
    · next gone =>
      rw [Goes.get_bind_iff] at onward
      obtain ⟨answer, closing, second, rfl⟩ := Marked.request_bind onward
      cases answer with
      | none =>
        obtain ⟨rfl, rfl, rfl⟩ := sessionLost_goes second
        exact (Tries.unrecovered attempt gone).ends_run rfl rfl
      | some handle =>
        have newer : before.session.Precedes handle := recovered _ _ (by simp)
        rw [Goes.modify_bind_iff] at second
        obtain ⟨log, result, later, triedAgain, ending, rfl⟩ := Marked.attempt_bind second
        have retry : Attempted settings operation.task handle _ _ := .intro triedAgain
        have tries := Tries.again attempt gone newer retry
        cases result with
        | ok value =>
          obtain ⟨rfl, rfl, rfl⟩ := Goes.pure_iff.mp ending
          rw [List.append_nil]
          exact tries.goes_on
        | error cause =>
          dsimp only at ending
          split at ending
          · next goneToo =>
            obtain ⟨rfl, rfl, rfl⟩ := sessionLost_goes ending
            rw [List.append_nil]
            exact tries.ends_run (error?_of_gone goneToo _ _) rfl
          · next other =>
            obtain ⟨rfl, rfl, rfl⟩ := stepFailed_goes ending
            rw [List.append_nil]
            exact tries.ends_run (error?_of_other other _ _) rfl
    · next other =>
      obtain ⟨rfl, rfl, rfl⟩ := stepFailed_goes onward
      have settled : ∀ other, failure? (.error cause : Except StepFailure operation.task.Value) =
          some other → other.isDetach = false := by
        rintro _ ⟨⟩
        exact Bool.eq_false_iff.mpr other
      rw [List.append_nil]
      exact (Tries.once attempt settled).ends_run (error?_of_other other _ _) rfl

/-! ## The interpreter -/

theorem checkWanted_retries : Retries settings (Marked.asks checkWanted) := by
  unfold checkWanted Marked.asks
  rw [carried_bind]
  refine (Retries.request .isCancelled rfl).bind fun stopped => ?_
  cases stopped with
  | true => exact Retries.get_bind fun _ => Retries.throw _
  | false => exact Retries.pure ()

theorem stepFailed_retries (place : Place) (cause : StepFailure) :
    Retries settings (Marked.asks (stepFailed place cause) : Marking α) := by
  intro before diary outcome after run _
  obtain ⟨rfl, rfl, rfl⟩ := stepFailed_goes run
  exact ⟨none, .rests _, concludes_none⟩

theorem pauseBefore_retries (loop : Loop) (first : Bool) :
    Retries settings (Marked.asks (pauseBefore loop first)) := by
  unfold pauseBefore
  split
  · exact Retries.request (.sleep _) rfl
  · exact Retries.pure ()

theorem pauseAfter_retries (rest : List Step) :
    Retries settings (Marked.asks (pauseAfter settings rest)) := by
  unfold pauseAfter
  split
  · exact Retries.request (.sleep _) rfl
  · exact Retries.pure ()

theorem completed_retries (context : RunContext) (place : Place) :
    Retries settings (Marked.asks (completed context place)) := by
  unfold completed Marked.asks
  rw [carried_bind]
  refine Retries.modify_bind (fun _ => rfl) ?_
  rw [carried_bind]
  exact Retries.get_bind fun _ => Retries.request (.progress _) rfl

theorem meets_retries (context : RunContext) (place : Place) (check : Check)
    (condition : Option Condition) :
    Retries context.settings (Marked.meets context place check condition) := by
  cases condition with
  | none => exact Retries.pure true
  | some condition => exact guarded_retries context.settings _

theorem iterate_retries {context : RunContext} {place : Place} {loop : Loop} {body : Marking Unit}
    (retries : Retries context.settings body) (left : Nat) (first : Bool) :
    Retries context.settings (Marked.iterate context place loop body left first) := by
  induction left generalizing first with
  | zero => exact Retries.pure ()
  | succ left induction =>
    refine (pauseBefore_retries loop first).bind fun _ => checkWanted_retries.bind fun _ => ?_
    refine (meets_retries context place .ofLoop loop.condition).bind fun met => ?_
    cases met with
    | true => exact retries.bind fun _ => induction false
    | false => exact Retries.pure ()

mutual

theorem step_retries (context : RunContext) (path : StepPath) :
    (step : Step) → Retries context.settings (Marked.step context path step)
  | .mk action condition loop timeoutMs source => by
    have body := action_retries context ⟨path, action.kind⟩ (limit context timeoutMs) action
    rw [Marked.step]
    refine (meets_retries context _ .ofStep condition).bind fun met => ?_
    cases met with
    | true =>
      cases loop with
      | none => exact body.bind fun _ => completed_retries context _
      | some loop => exact (iterate_retries body _ true).bind fun _ => completed_retries context _
    | false => exact Retries.pure ()

theorem action_retries (context : RunContext) (place : Place) (timeout : Nat) :
    (action : Action) →
      Retries context.settings (Marked.action context place timeout action)
  | .steps children => children_retries context place.path 0 children
  | .navigate _ | .click _ | .type _ _ | .hover _ | .scroll _ | .waitForElement _ _
  | .waitForExpression _ | .setViewport _ | .key _ _ => guarded_retries context.settings _

theorem children_retries (context : RunContext) (path : StepPath) (index : Nat) :
    (children : List Step) →
      Retries context.settings (Marked.children context path index children)
  | [] => Retries.pure ()
  | child :: rest => by
    have first := step_retries context (path ++ [index]) child
    have others := children_retries context path (index + 1) rest
    rw [Marked.children]
    exact checkWanted_retries.bind fun _ => first.bind fun _ => others

end

theorem steps_retries (context : RunContext) (index : Nat) (steps : List Step) :
    Retries context.settings (Marked.steps context index steps) := by
  induction steps generalizing index with
  | nil => exact Retries.pure ()
  | cons step rest induction =>
    rw [Marked.steps]
    refine (Retries.request .isCancelled rfl).bind fun stopped => ?_
    cases stopped with
    | true => exact Retries.throw_bind _ _
    | false =>
      refine Retries.modify_bind (fun _ => rfl) ?_
      cases (step.fill context.vars).1 with
      | error error => exact stepFailed_retries _ _
      | ok filled =>
        refine (step_retries context [index] filled).bind fun _ => ?_
        exact (pauseAfter_retries rest).bind fun _ => induction (index + 1)

/-! ## The whole run -/

section

variable {session first last : SessionHandle} {ending : Option (Place × Verdict)} {log : Log}
  {closing : Diary} {program : RunProgram α} {value : α}

theorem asked_iff : Program.Transcript (program.interpret Mark.ask) diary value ↔
    ∃ log, Program.Transcript program log value ∧ diary = Log.unmarked log := by
  rw [Program.Transcript.interpret_iff]
  simp only [Mark.carries_ask_iff]

theorem Diary.Leaves.spans (leaves : diary.Leaves) (session : SessionHandle) :
    Spans settings session diary none session := by
  induction diary with
  | nil => exact .rests session
  | cons entry diary induction =>
    obtain ⟨⟨request, answer, rfl, leaving⟩, later⟩ := List.forall_mem_cons.mp leaves
    exact .asks (Diary.isWork_of_isLeaving leaving) (induction later)

/-- However a run has ended, it leaves at last. -/
theorem Spans.close (spans : Spans settings first diary ending last) (leaves : closing.Leaves) :
    Spans settings first (diary ++ closing) ending last := by
  cases ending with
  | none => exact spans.append rfl (leaves.spans last)
  | some ending => exact spans.leave nofun leaves

theorem Only.leaves (only : Only Request.isLeaving program)
    (run : Program.Transcript (program.interpret Mark.ask) diary value) : diary.Leaves := by
  obtain ⟨log, asked, rfl⟩ := asked_iff.mp run
  intro entry member
  obtain ⟨made, inLog, rfl⟩ := List.mem_map.mp member
  exact ⟨_, _, rfl, only log value asked made inLog⟩

end

theorem attachAndRun_spans {program : Script} {vars : Variables} {target : String}
    {outcome : Except RunError Unit} {executed : Nat} {keep : Bool}
    (run : Program.Transcript (Marked.attachAndRun settings program vars target) diary
      (outcome, executed, keep)) (recovered : diary.Recovered) :
    ∃ first ending last, Spans settings first diary ending last ∧ Concludes ending outcome := by
  obtain ⟨stopped, _, _, checked, onward, rfl⟩ := Program.Transcript.bind_iff.mp run
  obtain ⟨_, asked, rfl⟩ := asked_iff.mp checked
  obtain rfl := Program.Transcript.request_iff.mp asked
  cases stopped with
  | true =>
    obtain ⟨rfl, same⟩ := Program.Transcript.pure_iff.mp onward
    cases same
    exact ⟨default, none, default, .asks rfl (.rests _), concludes_none⟩
  | false =>
    obtain ⟨answer, _, _, attached, rest, rfl⟩ := Program.Transcript.bind_iff.mp onward
    obtain ⟨_, made, rfl⟩ := asked_iff.mp attached
    obtain rfl := Program.Transcript.request_iff.mp made
    cases answer with
    | error error =>
      obtain ⟨rfl, same⟩ := Program.Transcript.pure_iff.mp rest
      cases same
      exact ⟨default, none, default, .asks rfl (.asks rfl (.rests _)), concludes_none⟩
    | ok session =>
      obtain ⟨⟨ended, state⟩, _, _, ran, finish, rfl⟩ := Program.Transcript.bind_iff.mp rest
      obtain ⟨rfl, same⟩ := Program.Transcript.pure_iff.mp finish
      cases same
      rw [List.append_nil] at recovered ⊢
      obtain ⟨ending, spans, concludes⟩ := steps_retries ⟨program.id, vars, settings⟩ 0
        program.steps _ _ _ _ ran recovered.of_append.2.of_append.2
      exact ⟨session, ending, state.session, .asks rfl (.asks rfl spans), concludes⟩

/-- What the run reports when an operation has ended it. -/
theorem Concludes.reported {outcome : Except RunError Unit} {ending : Option (Place × Verdict)}
    {place : Place} {verdict : Verdict} (concludes : Concludes ending outcome)
    (ended : ending = some (place, verdict)) (target : String) (executed took : Nat) :
    verdict.Reported target place (.report target outcome executed took) := by
  obtain ⟨index, error, known, rfl⟩ := concludes place verdict ended
  refine ⟨?_, index, error, executed, took, known, rfl⟩
  cases verdict with
  | done => cases known
  | loses =>
    cases known
    exact List.mem_singleton.mpr rfl
  | fails cause =>
    cases known
    cases cause <;> simp [RunResult.report, RunError.code, Verdict.codes]

theorem script_spans {program : Script} {overrides : Variables} {options : RunOptions}
    {result : RunResult}
    (run : Program.Transcript (Marked.script settings program overrides options) diary result)
    (recovered : diary.Recovered) :
    ∃ first ending last, Spans settings first diary ending last ∧
      ∀ place verdict, ending = some (place, verdict) →
        verdict.Reported options.target place result := by
  obtain ⟨started, _, _, begun, waits, rfl⟩ := Program.Transcript.bind_iff.mp run
  obtain ⟨_, looked, rfl⟩ := asked_iff.mp begun
  obtain rfl := Program.Transcript.request_iff.mp looked
  obtain ⟨_, _, _, entered, turn, rfl⟩ := Program.Transcript.bind_iff.mp waits
  obtain ⟨_, queued, rfl⟩ := asked_iff.mp entered
  obtain rfl := Program.Transcript.request_iff.mp queued
  obtain ⟨⟨outcome, executed, keep⟩, _, _, attempt, leaving, rfl⟩ :=
    Program.Transcript.bind_iff.mp turn
  obtain ⟨_, _, _, parted, freeing, rfl⟩ := Program.Transcript.bind_iff.mp leaving
  obtain ⟨_, _, _, released, ending, rfl⟩ := Program.Transcript.bind_iff.mp freeing
  obtain ⟨ended, _, _, told, reporting, rfl⟩ := Program.Transcript.bind_iff.mp ending
  obtain ⟨rfl, rfl⟩ := Program.Transcript.pure_iff.mp reporting
  obtain ⟨first, ending, last, spans, concludes⟩ :=
    attachAndRun_spans attempt recovered.of_append.2.of_append.2.of_append.1
  have leaves : Diary.Leaves _ := List.forall_mem_append.mpr ⟨(part_only rfl _).leaves parted,
    List.forall_mem_append.mpr ⟨(Only.request (.release options.target) rfl).leaves released,
      List.forall_mem_append.mpr ⟨(Only.request .now rfl).leaves told,
        fun _ member => absurd member List.not_mem_nil⟩⟩⟩
  exact ⟨first, ending, last, .asks rfl (.asks rfl (spans.close leaves)),
    fun place verdict ended => concludes.reported ended options.target executed _⟩

/-- The operations of a run, and the sessions of its page calls. -/
structure Diary.Bounded (settings : Settings) (target : String) (diary : Diary)
    (result : RunResult) : Prop where
  /-- An operation is tried at most twice, nothing is done for it after that, and it ends the run
  unless it is done. -/
  operations : ∀ before operation rest, diary = before ++ ⟨.begins operation, ()⟩ :: rest →
    ∃ (session : SessionHandle) (part : Diary) (verdict : Verdict) (last : SessionHandle)
      (later : Diary), rest = part ++ later ∧
        Tries settings operation.task session part verdict last ∧ part.tried.length ≤ 2 ∧
        later.Idle ∧
        (verdict ≠ .done → later.Leaves ∧ verdict.Reported target operation.place result)
  /-- Before the first operation nothing is done for one. -/
  idle : diary.Idle
  /-- Page calls are only made where something is tried, and on the session of that try. -/
  calls : ∃ first, diary.Calls first
  /-- After a recovery every page call is made on the recovered session or on a later one. -/
  recovered : ∀ before stale handle (after : Diary),
    diary = before ++ ⟨.asks (.recover stale), (some handle : Option SessionHandle)⟩ :: after →
      stale.Precedes handle ∧ after.Calls handle

/-- What a run is answered when it recovers is what a manager of sessions answers. -/
def Diary.Managed (settings : Settings) (diary : Diary) : Prop :=
  ∀ stale answer, ⟨.asks (.recover stale), answer⟩ ∈ diary →
    Session.Recovers settings stale answer

/-- Bounded retries. What a run exchanges is what the run with marks exchanges, its marks left out,
and however it is answered it comes to an end. Where it is the manager of sessions that answers its
recoveries, every operation is tried at most twice, and only on later and later sessions. -/
theorem script_retries_once (settings : Settings) (program : Script) (overrides : Variables)
    (options : RunOptions) :
    (∀ log result,
      Program.Transcript (Run.script settings program overrides options) log result ↔
        ∃ diary : Diary, Program.Transcript
          (Marked.script settings program overrides options) diary result ∧ diary.log = log) ∧
    (∀ rule, ∃! run : Diary × RunResult,
      Program.Transcript (Marked.script settings program overrides options) run.1 run.2 ∧
        Program.Follows rule [] run.1) ∧
    ∀ (diary : Diary) result,
      Program.Transcript (Marked.script settings program overrides options) diary result →
        diary.Managed settings → diary.Bounded settings options.target result := by
  refine ⟨fun log result => Marked.transcript_iff,
    fun rule => Program.Transcript.exists_unique _ rule [], fun diary result run managed => ?_⟩
  have recovered : Diary.Recovered diary := fun stale handle member =>
    (managed stale (some handle) member).precedes
  obtain ⟨first, ending, last, spans, reported⟩ := script_spans run recovered
  refine ⟨fun before operation rest same => ?_, spans.idle, ⟨first, spans.calls⟩,
    fun before stale handle after => spans.recovered⟩
  obtain ⟨session, part, verdict, next, later, rfl, tries, idle, ended⟩ := spans.begun same
  refine ⟨session, part, verdict, next, later, rfl, tries, tries.tried_at_most_twice, idle,
    fun undone => ?_⟩
  rcases ended with rfl | ⟨leaves, ends⟩
  · exact absurd rfl undone
  · exact ⟨leaves, reported _ _ ends⟩

/-- A session that went away while nobody was running a script, and the one that came after it. -/
theorem recovers_after_loss :
    Session.Recovers {} ⟨"T1", "S1", true, 1⟩ (some ⟨"T1", "S2", true, 2⟩) := by
  have wanted := (@Session.Reaches.start {}).move (.ensure "T1") trivial
  have opened := wanted.move (.resume 0 (.attached (.ok "S1"))) ⟨_, rfl, rfl⟩
  have ready := opened.move (.resume 0 (.probed (.ok (.str "complete")))) ⟨_, rfl, rfl⟩
  have lost := ready.move (.notice (.detached "T1" "S1" "closed")) trivial
  have again := lost.move (.ensure "T1") trivial
  have reopened := again.move (.resume 1 (.attached (.ok "S2"))) ⟨_, rfl, rfl⟩
  have newer := reopened.move (.resume 1 (.probed (.ok (.str "complete")))) ⟨_, rfl, rfl⟩
  exact .atOnce newer rfl

/-- The session goes away under the first half of a key press. The whole press is tried again on the
session that comes after it, and that is not done because the page does not take it. -/
theorem press_retried_once :
    ∃ program diary result,
      Program.Transcript (Marked.script {} program Variables.empty ⟨"T1", false⟩) diary result ∧
      Diary.Managed {} diary ∧ Diary.Bounded {} "T1" diary result ∧
      Diary.tried diary = [⟨"T1", "S1", true, 1⟩, ⟨"T1", "S2", true, 2⟩] ∧
      result.code = .stepFailed ∧ result.stepPath = some "0" := by
  let program : Script := ⟨"s", "", none, Variables.empty,
    [.mk (.key "a" .press) none none none .null]⟩
  let refused : StepFailure := .ofPageError (.evaluation "no")
  let diary : Diary := [⟨.asks .now, (3 : Nat)⟩, ⟨.asks (.acquire "T1"), ()⟩,
    ⟨.asks .isCancelled, false⟩, ⟨.asks (.attach "T1"), .ok ⟨"T1", "S1", true, 1⟩⟩,
    ⟨.asks .isCancelled, false⟩,
    ⟨.begins ⟨⟨[0], .keyEvent⟩, .performs 10000 (.key "a" .press)⟩, ()⟩,
    ⟨.tries ⟨"T1", "S1", true, 1⟩, ()⟩,
    ⟨.asks (.page "S1" (.input (.keyDown "a"))), .error (.sessionDetached "S1")⟩,
    ⟨.ends (some (.ofPageError (.sessionDetached "S1"))), ()⟩,
    ⟨.asks (.recover ⟨"T1", "S1", true, 1⟩), some ⟨"T1", "S2", true, 2⟩⟩,
    ⟨.tries ⟨"T1", "S2", true, 2⟩, ()⟩,
    ⟨.asks (.page "S2" (.input (.keyDown "a"))), .ok .null⟩,
    ⟨.asks (.page "S2" (.input (.keyUp "a"))), .error (.evaluation "no")⟩,
    ⟨.ends (some refused), ()⟩, ⟨.asks (.release "T1"), ()⟩, ⟨.asks .now, (7 : Nat)⟩]
  have run : Program.Transcript (Marked.script {} program Variables.empty ⟨"T1", false⟩) diary _ :=
    .ask _ (.ask _ (.ask _ (.ask _ (.ask _ (.ask _ (.ask _ (.ask _ (.ask _ (.ask _ (.ask _ (.ask _
      (.ask _ (.ask _ (.ask _ (.ask _ (.done _))))))))))))))))
  have managed : diary.Managed {} := by
    intro stale answer member
    dsimp only [diary] at member
    iterate 9 obtain _ | ⟨_, member⟩ := member
    obtain _ | ⟨_, member⟩ := member
    · exact recovers_after_loss
    · iterate 7 obtain _ | ⟨_, member⟩ := member
  have bounded := (script_retries_once {} program Variables.empty ⟨"T1", false⟩).2.2 diary _ run
    managed
  exact ⟨program, diary, _, run, managed, bounded, rfl, rfl, rfl⟩

end BrowserScript.Run

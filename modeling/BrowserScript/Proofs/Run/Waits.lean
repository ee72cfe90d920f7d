import BrowserScript.Proofs.Polling
import BrowserScript.Proofs.Run.Search

/-!
# Waiting for a page

A wait asks the page at even intervals until an answer holds, an error comes or the time is up.
When only sleeping takes time, the answers alone decide when it ends and how. Main definitions:
`Run.asking`, `Run.probeVerdict?`, `Run.Waited`, `Run.KeepsTo`. Main results: `Run.poll_polls`,
`Run.waitUntil_keepsTo`, `Run.navigate_keepsTo`.
-/

set_option autoImplicit false

namespace BrowserScript.Run

open Program (Transcript Follows)

namespace Log

theorem slept_asked (past : Log) (session : String) (call : PageCall)
    (answer : Except PageError Json) :
    slept (past ++ [⟨.page session call, answer⟩]) = past.slept :=
  slept_append past _

theorem length_calls_asked (start : Nat) (past : Log) (session : String) (call : PageCall)
    (answer : Except PageError Json) :
    (calls start (past ++ [⟨.page session call, answer⟩])).length =
      (past.calls start).length + 1 := by
  rw [calls_append, List.length_append]
  rfl

end Log

variable {session what : String} {request : PageCall} {holds : Json → Bool} {late : StepFailure}
  {start interval timeout deadline last : Nat} {answers : Nat → Except PageError Json}
  {rule : Log → (request : Request) → request.Answer} {past log : Log}
  {result : Except StepFailure Unit}

/-- A probe: one call, and whether its answer holds. -/
def asking (session : String) (request : PageCall) (holds : Json → Bool) : StepProgram Bool := do
  return holds (← call session request)

/-- What the answer to a probe decides: an error fails the step, and what holds ends the wait. -/
def probeVerdict? (holds : Json → Bool) :
    Except PageError Json → Option (Except StepFailure Unit)
  | .error error => some (.error (.ofPageError error))
  | .ok value => if holds value then some (.ok ()) else none

/-! ## One probe -/

/-- A probe that does not decide is followed by what comes next. -/
theorem asking_bind (next : StepProgram Unit) :
    (asking session request holds >>= fun held => if held then pure () else next).run =
      page session request >>= fun answer =>
        match probeVerdict? holds answer with
        | some verdict => pure verdict
        | none => next.run := by
  refine congrArg (page session request >>= ·) (funext fun answer => ?_)
  cases answer with
  | error error => rfl
  | ok value =>
    change (if holds value = true then pure () else next : StepProgram Unit).run =
      match if holds value then some (.ok ()) else none with
      | some verdict => pure verdict
      | none => next.run
    cases holds value <;> rfl

/-- The answer to a probe ends the wait, or the wait goes on after it. -/
theorem probed (answering : Answering start answers rule) {next : StepProgram Unit}
    (run : Transcript
      (asking session request holds >>= fun held => if held then pure () else next).run log result)
    (follows : Follows rule past log) :
    ∃ answer rest, answer = answers (past.calls start).length ∧
      log = ⟨.page session request, answer⟩ :: rest ∧
      (probeVerdict? holds answer = some result ∧ rest = [] ∨
        probeVerdict? holds answer = none ∧ Transcript next.run rest result ∧
          Follows rule (past ++ [⟨.page session request, answer⟩]) rest) := by
  rw [asking_bind] at run
  obtain ⟨answer, opening, rest, asked, ending, rfl⟩ := Transcript.bind_iff.mp run
  obtain rfl := Transcript.request_iff.mp asked
  obtain ⟨answered, follows⟩ := follows
  refine ⟨answer, rest, answered.trans (answering.page past session request), rfl, ?_⟩
  cases decides : probeVerdict? holds answer with
  | some verdict =>
    rw [decides] at ending
    obtain ⟨rfl, rfl⟩ := Transcript.pure_iff.mp ending
    exact .inl ⟨rfl, rfl⟩
  | none =>
    rw [decides] at ending
    exact .inr ⟨rfl, ending, follows⟩

/-- After a probe that does not hold the time is looked at, and a pause is made if it is not up. -/
def pausing (interval deadline : Nat) (late : StepFailure) (next : StepProgram Unit) :
    StepProgram Unit := do
  let time ← liftM now
  if deadline ≤ time then throw late
  else
    liftM (sleep interval)
    next

theorem pausing_run (next : StepProgram Unit) :
    (pausing interval deadline late next).run =
      now >>= fun time =>
        if deadline ≤ time then pure (.error late) else sleep interval >>= fun _ => next.run := by
  refine congrArg (now >>= ·) (funext fun time => ?_)
  by_cases passed : deadline ≤ time
  · simp only [ExceptT.bindCont, if_pos passed]
    rfl
  · simp only [ExceptT.bindCont, if_neg passed]
    rfl

/-- Before the deadline a pause takes one interval. -/
theorem paused (answering : Answering start answers rule) {next : StepProgram Unit}
    (early : start + past.slept < deadline)
    (run : Transcript (pausing interval deadline late next).run log result)
    (follows : Follows rule past log) :
    ∃ rest, log = ⟨.now, start + past.slept⟩ :: ⟨.sleep interval, ()⟩ :: rest ∧
      Transcript next.run rest result ∧
        Follows rule (past ++ [⟨.now, start + past.slept⟩] ++ [⟨.sleep interval, ()⟩]) rest := by
  rw [pausing_run] at run
  obtain ⟨time, _, rest, clock, pause, rfl⟩ := Transcript.bind_iff.mp run
  obtain rfl := Transcript.request_iff.mp clock
  obtain ⟨told, follows⟩ := follows
  obtain rfl : time = start + past.slept := told.trans (answering.now past)
  rw [if_neg (Nat.not_le.mpr early)] at pause
  obtain ⟨⟨⟩, _, rest, asleep, onward, rfl⟩ := Transcript.bind_iff.mp pause
  obtain rfl := Transcript.request_iff.mp asleep
  exact ⟨rest, rfl, onward, follows.2⟩

/-! ## All probes -/

/-- A wait that has time for so many more probes makes them at even intervals until one decides. -/
theorem poll_polls (answering : Answering start answers rule) {left : Nat}
    (room : ∀ round < left, start + past.slept + round * interval < deadline)
    (run : Transcript (poll interval deadline late (asking session request holds) left).run log
      result) (follows : Follows rule past log) :
    ∃ last, Polls (probeVerdict? holds) (.error late) left
        (fun probe => answers ((past.calls start).length + probe)) last result ∧
      log.calls (start + past.slept) =
        (List.range' (start + past.slept) (last + 1) interval).map (·, session, request) ∧
      log.slept = last * interval := by
  -- A round that is over leaves one round less to the deadline, and one answer less.
  induction left generalizing past log with
  | zero =>
    obtain ⟨answer, rest, rfl, rfl, ⟨decides, rfl⟩ | ⟨undecided, ending, _⟩⟩ :=
      probed answering run follows
    · exact ⟨0, .first decides, rfl, (Nat.zero_mul interval).symm⟩
    · obtain ⟨rfl, rfl⟩ := Transcript.pure_iff.mp ending
      refine ⟨0, .late fun probe first => ?_, rfl, (Nat.zero_mul interval).symm⟩
      rwa [Nat.le_zero.mp first]
  | succ left induction =>
    obtain ⟨answer, rest, given, rfl, ⟨decides, rfl⟩ | ⟨undecided, onward, follows⟩⟩ :=
      probed answering run follows
    · subst given
      exact ⟨0, .first decides, rfl, (Nat.zero_mul interval).symm⟩
    · have early := room 0 (Nat.succ_pos left)
      rw [Nat.zero_mul, Nat.add_zero, ← Log.slept_asked past session request answer] at early
      obtain ⟨rest, rfl, onward, follows⟩ := paused answering early onward follows
      rw [Log.slept_asked] at follows
      have slept : (past ++ [⟨.page session request, answer⟩] ++ [⟨.now, start + past.slept⟩] ++
          [⟨.sleep interval, ()⟩] : Log).slept = past.slept + interval := by
        rw [Log.slept_paused, Log.slept_asked]
        rfl
      have calls : ((past ++ [⟨.page session request, answer⟩] ++ [⟨.now, start + past.slept⟩] ++
          [⟨.sleep interval, ()⟩] : Log).calls start).length = (past.calls start).length + 1 := by
        rw [Log.calls_paused, List.length_append, Log.length_calls_asked]
        rfl
      have further : ∀ round < left,
          start + (past.slept + interval) + round * interval < deadline := by
        intro round less
        have fits := room (round + 1) (Nat.succ_lt_succ less)
        rw [Nat.succ_mul] at fits
        omega
      rw [← slept] at further
      obtain ⟨last, polls, others, waited⟩ := induction further onward follows
      rw [calls] at polls
      rw [slept, ← Nat.add_assoc] at others
      subst given
      refine ⟨last + 1, .goesOn undecided ?_, ?_, ?_⟩
      · simpa only [Nat.add_assoc, Nat.add_comm 1] using polls
      · rw [List.range'_succ, List.map_cons, ← others]
        rfl
      · rw [Nat.succ_mul]
        exact (congrArg (interval + ·) waited).trans (Nat.add_comm _ _)

/-! ## Whole waits -/

/-- A wait for a page that began at a time, and how it ended: it probes at once and then at even
intervals, up to the first answer that decides or the first probe at which the time is up. -/
inductive Waited (session : String) (request : PageCall) (holds : Json → Bool) (what : String)
    (interval timeout begun : Nat) (answers : Nat → Except PageError Json) (log : Log)
    (result : Except StepFailure Unit) : Prop
  | ended (last : Nat)
      (polls : Polls (probeVerdict? holds) (.error (.timeout what timeout.toUInt64))
        (timeout ⌈/⌉ interval) answers last result)
      (calls : log.calls begun =
        (List.range' begun (last + 1) interval).map (·, session, request))
      (slept : log.slept = last * interval)
      (late : last = timeout ⌈/⌉ interval →
        timeout ≤ log.slept ∧ log.slept < timeout + interval)

theorem waitUntil_waited (answering : Answering start answers rule) (positive : 0 < interval)
    (run : Transcript (waitUntil interval timeout what (asking session request holds)).run log
      result) (follows : Follows rule past log) :
    Waited session request holds what interval timeout (start + past.slept)
      (fun probe => answers ((past.calls start).length + probe)) log result := by
  obtain ⟨time, opening, rest, clock, polling, rfl⟩ := Transcript.bind_iff.mp
    (show Transcript (now >>= fun time => (poll interval (time + timeout)
      (.timeout what timeout.toUInt64) (asking session request holds)
      (timeout ⌈/⌉ interval)).run) log result from run)
  obtain rfl := Transcript.request_iff.mp clock
  obtain ⟨told, follows⟩ := follows
  obtain rfl : time = start + past.slept := told.trans (answering.now past)
  have still : (past ++ [⟨.now, start + past.slept⟩] : Log).slept = past.slept :=
    Log.slept_append past _
  have none : (past ++ [⟨.now, start + past.slept⟩] : Log).calls start = past.calls start :=
    (Log.calls_append start past _).trans (List.append_nil _)
  have room : ∀ round < timeout ⌈/⌉ interval, start +
      (past ++ [⟨.now, start + past.slept⟩] : Log).slept + round * interval <
        start + past.slept + timeout := by
    intro round less
    rw [still]
    exact Nat.add_lt_add_left ((ceilDiv_room positive).mp less) _
  obtain ⟨last, polls, calls, slept⟩ := poll_polls answering room polling follows
  rw [still] at calls
  rw [none] at polls
  refine .ended last polls calls slept fun whole => ?_
  have bounds := ceilDiv_late timeout positive
  rw [← whole] at bounds
  rwa [show Log.slept ([⟨.now, start + past.slept⟩] ++ rest) = last * interval from slept]

theorem pollInterval_pos (settings : Settings) : 0 < settings.pollInterval :=
  Nat.lt_of_lt_of_le Nat.zero_lt_one (Nat.le_max_right _ _)

/-- What comes of telling a page to navigate: it is waited for, unless it could not be told. -/
inductive Navigated (settings : Settings) (session url : String) (timeout begun : Nat)
    (answers : Nat → Except PageError Json) : Log → Except StepFailure Unit → Prop
  | refused {error : PageError} (answer : answers 0 = .error error) :
      Navigated settings session url timeout begun answers
        [⟨.page session (.navigate url), .error error⟩] (.error (.ofPageError error))
  | awaited {value : Json} {rest : Log} {result : Except StepFailure Unit}
      (answer : answers 0 = .ok value)
      (waited : Waited session (.evaluate Page.readyStateExpression) Page.isReady "page load"
        settings.pollInterval timeout begun (fun probe => answers (probe + 1)) rest result) :
      Navigated settings session url timeout begun answers
        (⟨.page session (.navigate url), .ok value⟩ :: rest) result

theorem navigate_run (settings : Settings) (url : String) :
    (perform settings session timeout (.navigate url)).run =
      page session (.navigate url) >>= fun answer =>
        match answer with
        | .error error => pure (.error (.ofPageError error))
        | .ok _ => (waitUntil settings.pollInterval timeout "page load"
            (asking session (.evaluate Page.readyStateExpression) Page.isReady)).run := by
  refine congrArg (page session (.navigate url) >>= ·) (funext fun answer => ?_)
  cases answer with
  | error | ok => rfl

theorem navigate_navigated (answering : Answering start answers rule) {settings : Settings}
    {url : String}
    (run : Transcript (perform settings session timeout (.navigate url)).run log result)
    (follows : Follows rule past log) :
    Navigated settings session url timeout (start + past.slept)
      (fun number => answers ((past.calls start).length + number)) log result := by
  rw [navigate_run] at run
  obtain ⟨answer, opening, rest, asked, ending, rfl⟩ := Transcript.bind_iff.mp run
  obtain rfl := Transcript.request_iff.mp asked
  obtain ⟨answered, follows⟩ := follows
  have given : answers (past.calls start).length = answer :=
    (answered.trans (answering.page past session _)).symm
  cases answer with
  | error error =>
    obtain ⟨rfl, rfl⟩ := Transcript.pure_iff.mp ending
    exact .refused given
  | ok value =>
    refine .awaited given ?_
    have waited := waitUntil_waited answering (pollInterval_pos settings) ending follows
    simp only [Log.slept_asked, Log.length_calls_asked, Nat.add_assoc, Nat.add_comm 1] at waited
    exact waited

/-- When only sleeping takes time, the program has one course, and it is as described from the time
at which the program begins and the answers that the page gives from then on. -/
def KeepsTo (program : StepProgram Unit)
    (course : Nat → (Nat → Except PageError Json) → Log → Except StepFailure Unit → Prop) : Prop :=
  ∀ (start : Nat) (answers : Nat → Except PageError Json)
    (rule : Log → (request : Request) → request.Answer) (past : Log), Answering start answers rule →
      (∃! run : Log × Except StepFailure Unit,
        Transcript program.run run.1 run.2 ∧ Follows rule past run.1) ∧
      ∀ log result, Transcript program.run log result → Follows rule past log →
        course (start + past.slept) (fun number => answers ((past.calls start).length + number)) log
          result

theorem waitUntil_keepsTo (what session : String) (request : PageCall) (holds : Json → Bool)
    (timeout : Nat) (positive : 0 < interval) :
    KeepsTo (waitUntil interval timeout what (asking session request holds))
      (Waited session request holds what interval timeout) := by
  intro start answers rule past answering
  refine ⟨Transcript.exists_unique _ rule past, fun log result run follows => ?_⟩
  exact waitUntil_waited answering positive run follows

theorem navigate_keepsTo (settings : Settings) (session url : String) (timeout : Nat) :
    KeepsTo (perform settings session timeout (.navigate url))
      (Navigated settings session url timeout) := by
  intro start answers rule past answering
  refine ⟨Transcript.exists_unique _ rule past, fun log result run follows => ?_⟩
  exact navigate_navigated answering run follows

end BrowserScript.Run

import BrowserScript.Proofs.Run.Transcript

/-!
# Pieces of a step

Conditions and actions turn to nothing but the clock and the page, which they reach through one
session, and find the session gone only when the page says so. Main definitions: `Run.Undisturbed`,
`Run.Tied`, `Run.Bound`, `Run.Local`, `Run.Plain`. Main results: `Run.holds_bound`,
`Run.perform_bound`.
-/

set_option autoImplicit false

namespace BrowserScript.Run

variable {α β ε : Type} {session : String}

/-- Requests to the page and to the clock. -/
def Request.isStepwise : Request → Bool
  | page _ _ | now | sleep _ => true
  | _ => false

/-- Requests to the page through this session, and to the clock. -/
def Request.isThrough (session : String) : Request → Bool
  | page other _ => other == session
  | now | sleep _ => true
  | _ => false

/-- The run is still wanted, and the page does not say that the session is gone. -/
def Calm : Program.Entry Request Request.Answer → Prop
  | ⟨.isCancelled, answer⟩ => answer = false
  | ⟨.page _ _, answer⟩ => ∀ error, answer = .error error → error.isDetach = false
  | _ => True

def Undisturbed (log : Log) : Prop := ∀ entry ∈ log, Calm entry

theorem undisturbed_append {before after : Log} :
    Undisturbed (before ++ after) ↔ Undisturbed before ∧ Undisturbed after :=
  List.forall_mem_append

/-- A program only makes requests to the page through this session and to the clock, and its result
is not `gone` unless the page says so. -/
def Tied (session : String) (gone : α → Prop) (program : RunProgram α) : Prop :=
  ∀ log result, Program.Transcript program log result →
    (∀ entry ∈ log, entry.request.isThrough session = true) ∧ (Undisturbed log → ¬ gone result)

namespace Tied

variable {gone : α → Prop} {others : β → Prop}

theorem pure {value : α} (here : ¬ gone value) : Tied session gone (Pure.pure value) := by
  intro log result run
  obtain ⟨rfl, rfl⟩ := Program.Transcript.pure_iff.mp run
  exact ⟨fun _ member => absurd member List.not_mem_nil, fun _ => here⟩

theorem request (request : Request) {gone : request.Answer → Prop}
    (through : request.isThrough session = true)
    (calm : ∀ answer, Calm ⟨request, answer⟩ → ¬ gone answer) :
    Tied session gone (Program.request request) := by
  intro log result run
  obtain rfl := Program.Transcript.request_iff.mp run
  refine ⟨fun entry member => ?_, fun undisturbed =>
    calm result (undisturbed _ (List.mem_singleton.mpr rfl))⟩
  rw [List.mem_singleton.mp member]
  exact through

/-- What comes second need not find anything gone that the first already has. -/
theorem bind {first : RunProgram α} {next : α → RunProgram β} (start : Tied session gone first)
    (rest : ∀ value, Tied session (fun result => others result ∧ ¬ gone value) (next value)) :
    Tied session others (first >>= next) := by
  intro log result run
  obtain ⟨value, before, after, early, late, rfl⟩ := Program.Transcript.bind_iff.mp run
  obtain ⟨through, still⟩ := start before value early
  obtain ⟨onward, further⟩ := rest value after result late
  refine ⟨List.forall_mem_append.mpr ⟨through, onward⟩, fun undisturbed bad => ?_⟩
  obtain ⟨calm, calmer⟩ := undisturbed_append.mp undisturbed
  exact further calmer ⟨bad, still calm⟩

theorem mono {program : RunProgram α} {fewer : α → Prop} (holds : Tied session gone program)
    (less : ∀ result, fewer result → gone result) : Tied session fewer program := by
  intro log result run
  obtain ⟨through, still⟩ := holds log result run
  exact ⟨through, fun undisturbed bad => still undisturbed (less result bad)⟩

/-- Whatever the first gives, the rest finds nothing gone. -/
theorem andThen {first : RunProgram α} {next : α → RunProgram β}
    (start : Tied session (fun _ => False) first)
    (rest : ∀ value, Tied session others (next value)) :
    Tied session others (first >>= next) :=
  start.bind fun value => (rest value).mono fun _ bad => bad.1

end Tied

/-- An error of this kind. -/
def Fails (kind : ε → Bool) (result : Except ε α) : Prop :=
  ∃ error, result = .error error ∧ kind error = true

theorem not_fails_ok {kind : ε → Bool} {value : α} : ¬ Fails kind (.ok value : Except ε α) := by
  rintro ⟨error, same, _⟩
  cases same

theorem fails_error {kind : ε → Bool} {error : ε} :
    Fails kind (.error error : Except ε α) ↔ kind error = true := by
  constructor
  · rintro ⟨other, same, gone⟩
    cases same
    exact gone
  · intro gone
    exact ⟨error, rfl, gone⟩

theorem not_fails_error {kind : ε → Bool} {error : ε} (other : kind error = false) :
    ¬ Fails kind (.error error : Except ε α) := by
  rw [fails_error, other]
  exact Bool.false_ne_true

/-- A failure is passed on as what it means for the caller. -/
theorem Tied.passOn {ε' : Type} {kind : ε → Bool} {kind' : ε' → Bool}
    {first : RunProgram (Except ε α)} {next : Except ε α → RunProgram (Except ε' β)}
    (meaning : ε → ε') (start : Tied session (Fails kind) first)
    (failed : ∀ error, next (.error error) = Pure.pure (.error (meaning error)))
    (same : ∀ error, kind' (meaning error) = kind error)
    (rest : ∀ value, Tied session (Fails kind') (next (.ok value))) :
    Tied session (Fails kind') (first >>= next) := by
  refine start.bind fun result => ?_
  cases result with
  | ok value => exact (rest value).mono fun _ bad => bad.1
  | error error =>
    rw [failed error]
    refine Tied.pure fun bad => bad.2 ?_
    rw [fails_error, ← same error]
    exact fails_error.mp bad.1

theorem page_tied (session : String) (call : PageCall) :
    Tied session (Fails PageError.isDetach) (page session call) := by
  refine Tied.request (.page session call) (beq_self_eq_true session) ?_
  rintro answer calm ⟨error, same, gone⟩
  rw [calm error same] at gone
  cases gone

theorem now_tied (session : String) : Tied session (fun _ => False) now :=
  Tied.request .now rfl fun _ _ => id

theorem sleep_tied (session : String) (ms : Nat) : Tied session (fun _ => False) (sleep ms) :=
  Tied.request (.sleep ms) rfl fun _ _ => id

/-! ## Lookups -/

theorem LookupAnswer.ofJson_error {value : Json} {error : PageError}
    (failed : LookupAnswer.ofJson value = .error error) : error.isDetach = false := by
  unfold LookupAnswer.ofJson at failed
  split at failed
  · cases failed
  · cases failed
    rfl

theorem round_tied (lookup : Lookup) (session : String) (selectors : List String) :
    Tied session (Fails PageError.isDetach) (lookup.round session selectors) := by
  induction selectors with
  | nil => exact Tied.pure not_fails_ok
  | cons selector rest induction =>
    unfold Lookup.round
    refine Tied.passOn id (page_tied session _) (fun _ => rfl) (fun _ => rfl) ?_
    intro value
    dsimp only
    split
    · next error failed => exact Tied.pure (not_fails_error (LookupAnswer.ofJson_error failed))
    · split
      · exact Tied.pure not_fails_ok
      · exact induction

/-- The step that looked would say that the session is gone. -/
def LookupError.isDetach (error : LookupError) : Bool := error.failure.isDetach

theorem of_page_error_is_detach (error : PageError) :
    (StepFailure.ofPageError error).isDetach = error.isDetach := by
  unfold StepFailure.ofPageError
  cases gone : error.isDetach <;> rfl

theorem roundOr_tied {lookup : Lookup} {session : String} {selectors : Selectors}
    {otherwise : Nat → RunProgram (Except LookupError Element)}
    (rest : ∀ time, Tied session (Fails LookupError.isDetach) (otherwise time)) :
    Tied session (Fails LookupError.isDetach) (lookup.roundOr session selectors otherwise) := by
  unfold Lookup.roundOr
  refine Tied.passOn LookupError.page (round_tied lookup session selectors.inOrder)
    (fun _ => rfl) of_page_error_is_detach ?_
  intro found
  cases found with
  | some element => exact Tied.pure not_fails_ok
  | none => exact (now_tied session).andThen rest

theorem rounds_tied (lookup : Lookup) (session : String) (selectors : Selectors)
    (started timeout left : Nat) :
    Tied session (Fails LookupError.isDetach)
      (lookup.rounds session selectors started timeout left) := by
  have ended : ∀ time, Tied session (Fails LookupError.isDetach) (Pure.pure
      (.error (.notFound selectors.shown (time - started)) : Except LookupError Element)) := by
    intro time
    exact Tied.pure (not_fails_error rfl)
  induction left with
  | zero => exact roundOr_tied ended
  | succ left induction =>
    refine roundOr_tied fun time => ?_
    split
    · exact ended time
    · exact (sleep_tied session lookup.interval).andThen fun _ => induction

theorem find_tied (lookup : Lookup) (session : String) (selectors : Selectors) (timeout : Nat) :
    Tied session (Fails LookupError.isDetach) (lookup.find session selectors timeout) :=
  (now_tied session).andThen fun started => rounds_tied lookup session selectors started timeout _

/-! ## Checks and actions -/

/-- A piece of a step that turns to the clock and to the page through this session, and fails
because the session is gone only when the page says so. -/
def Bound (session : String) (piece : StepProgram α) : Prop :=
  Tied session (Fails StepFailure.isDetach) piece.run

namespace Bound

theorem pure (value : α) : Bound session (Pure.pure value) := Tied.pure not_fails_ok

theorem throw {failure : StepFailure} (here : failure.isDetach = false) :
    Bound session (throw failure : StepProgram α) :=
  Tied.pure (not_fails_error here)

theorem bind {first : StepProgram α} {next : α → StepProgram β} (start : Bound session first)
    (rest : ∀ value, Bound session (next value)) : Bound session (first >>= next) :=
  Tied.passOn id start (fun _ => rfl) (fun _ => rfl) rest

theorem lift {program : RunProgram α} (quiet : Tied session (fun _ => False) program) :
    Bound session (liftM program : StepProgram α) := by
  have unfolded : (liftM program : StepProgram α).run =
      program >>= fun value => Pure.pure (.ok value) := rfl
  unfold Bound
  rw [unfolded]
  exact quiet.andThen fun _ => Tied.pure not_fails_ok

/-- An error of the page or of a lookup fails the step. -/
theorem mapError {program : RunProgram (Except ε α)} {kind : ε → Bool} {meaning : ε → StepFailure}
    (start : Tied session (Fails kind) program)
    (same : ∀ error, (meaning error).isDetach = kind error) :
    Bound session (ExceptT.mk (do return (← program).mapError meaning)) :=
  Tied.passOn meaning start (fun _ => rfl) same fun _ => Tied.pure not_fails_ok

end Bound

theorem call_bound (session : String) (request : PageCall) : Bound session (call session request) :=
  Bound.mapError (page_tied session request) of_page_error_is_detach

theorem callAll_bound (session : String) (requests : List PageCall) :
    Bound session (callAll session requests) := by
  induction requests with
  | nil => exact Bound.pure ()
  | cons first rest induction => exact (call_bound session first).bind fun _ => induction

theorem element_bound (lookup : Lookup) (session : String) (selectors : Selectors)
    (timeout : Nat) : Bound session (element lookup session selectors timeout) :=
  Bound.mapError (find_tied lookup session selectors timeout) fun _ => rfl

/-- Checking a condition turns to the page alone. -/
theorem holds_bound (interval : Nat) (session : String) (condition : Condition) :
    Bound session (holds interval session condition) := by
  cases condition with
  | expression source => exact (call_bound session _).bind fun _ => Bound.pure _
  | element selectors present =>
    exact (Bound.mapError (round_tied _ session selectors.inOrder) of_page_error_is_detach).bind
      fun _ => Bound.pure _
  | urlContains part => exact (call_bound session _).bind fun _ => Bound.pure _
  | textContains part => exact (call_bound session _).bind fun _ => Bound.pure _

theorem poll_bound {interval deadline left : Nat} {late : StepFailure} {probe : StepProgram Bool}
    (inTime : late.isDetach = false) (plain : Bound session probe) :
    Bound session (poll interval deadline late probe left) := by
  induction left with
  | zero =>
    refine plain.bind fun done => ?_
    split
    · exact Bound.pure ()
    · exact Bound.throw inTime
  | succ left induction =>
    refine plain.bind fun done => ?_
    split
    · exact Bound.pure ()
    · refine (Bound.lift (now_tied session)).bind fun time => ?_
      split
      · exact Bound.throw inTime
      · exact (Bound.lift (sleep_tied session interval)).bind fun _ => induction

theorem waitUntil_bound {interval timeout : Nat} {what : String} {probe : StepProgram Bool}
    (plain : Bound session probe) : Bound session (waitUntil interval timeout what probe) :=
  (Bound.lift (now_tied session)).bind fun _ => poll_bound rfl plain

theorem require_bound (done : Json) (selectors : String) :
    Bound session (require done selectors) := by
  unfold require
  split
  · exact Bound.pure ()
  · exact Bound.throw rfl

theorem click_bound (settings : Settings) (session : String) (timeout : Nat) (step : ClickStep) :
    Bound session (click settings session timeout step) :=
  (element_bound _ session step.selectors timeout).bind fun _ => callAll_bound session _

theorem type_bound (settings : Settings) (session : String) (timeout : Nat) (selectors : Selectors)
    (value : String) : Bound session (type settings session timeout selectors value) := by
  refine (element_bound _ session selectors timeout).bind fun element => ?_
  refine (call_bound session _).bind fun focused => ?_
  refine (require_bound focused element.path).bind fun _ => ?_
  have committed : Bound session (do
      let _ ← call session (act "commit" [("handle", Json.str element.handle)])) :=
    (call_bound session _).bind fun _ => Bound.pure ()
  cases value.isEmpty with
  | true => exact committed
  | false => exact (call_bound session _).bind fun _ => committed

theorem hover_bound (settings : Settings) (session : String) (timeout : Nat)
    (selectors : Selectors) : Bound session (hover settings session timeout selectors) :=
  (element_bound _ session selectors timeout).bind fun _ =>
    (call_bound session _).bind fun _ => Bound.pure ()

theorem scroll_bound (settings : Settings) (session : String) (timeout : Nat) (step : ScrollStep) :
    Bound session (scroll settings session timeout step) := by
  have scrolled : ∀ handle : Json, Bound session (do
      let done ← call session (act "scroll"
        [("handle", handle), ("x", .ofBinary64 step.x), ("y", .ofBinary64 step.y)])
      require done step.selectors.shown) := by
    intro handle
    exact (call_bound session _).bind fun done => require_bound done _
  unfold scroll
  cases step.selectors.isEmpty with
  | true => exact (Bound.pure Json.null).bind scrolled
  | false =>
    exact (element_bound _ session step.selectors timeout).bind fun _ =>
      (Bound.pure _).bind scrolled

/-- Carrying out an action turns to nothing but the page and the clock. -/
theorem perform_bound (settings : Settings) (session : String) (timeout : Nat) (action : Action) :
    Bound session (perform settings session timeout action) := by
  cases action with
  | navigate url =>
    refine (call_bound session _).bind fun _ => waitUntil_bound ?_
    exact (call_bound session _).bind fun _ => Bound.pure _
  | click step => exact click_bound settings session timeout step
  | type selectors value => exact type_bound settings session timeout selectors value
  | hover selectors => exact hover_bound settings session timeout selectors
  | scroll step => exact scroll_bound settings session timeout step
  | waitForElement selectors visible =>
    exact (element_bound _ session selectors timeout).bind fun _ => Bound.pure ()
  | waitForExpression source =>
    exact waitUntil_bound ((call_bound session _).bind fun _ => Bound.pure _)
  | setViewport viewport => exact (call_bound session _).bind fun _ => Bound.pure ()
  | key key direction => exact callAll_bound session _
  | steps children => exact Bound.pure ()

/-! ## Whatever the session is -/

/-- A program only makes requests to the page and to the clock, and its result is not `gone` unless
the page says so. -/
def Local (gone : α → Prop) (program : RunProgram α) : Prop :=
  ∀ log result, Program.Transcript program log result →
    (∀ entry ∈ log, entry.request.isStepwise = true) ∧ (Undisturbed log → ¬ gone result)

/-- A piece of a step that turns to the page and the clock, and fails because its session is gone
only when the page says so. -/
def Plain (piece : StepProgram α) : Prop := Local (Fails StepFailure.isDetach) piece.run

theorem isStepwise_of_isThrough {request : Request} (through : request.isThrough session = true) :
    request.isStepwise = true := by
  cases request <;> first | rfl | cases through

theorem Tied.loose {gone : α → Prop} {program : RunProgram α} (tied : Tied session gone program) :
    Local gone program := by
  intro log result run
  obtain ⟨through, still⟩ := tied log result run
  exact ⟨fun entry member => isStepwise_of_isThrough (through entry member), still⟩

theorem now_local : Local (fun _ => False) now := (now_tied "").loose

theorem sleep_local (ms : Nat) : Local (fun _ => False) (sleep ms) := (sleep_tied "" ms).loose

theorem holds_plain (interval : Nat) (session : String) (condition : Condition) :
    Plain (holds interval session condition) := (holds_bound interval session condition).loose

theorem perform_plain (settings : Settings) (session : String) (timeout : Nat) (action : Action) :
    Plain (perform settings session timeout action) :=
  (perform_bound settings session timeout action).loose

end BrowserScript.Run

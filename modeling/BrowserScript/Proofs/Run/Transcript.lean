import Mathlib.Logic.ExistsUnique
import BrowserScript.Run.Script

/-!
# Transcripts

What a program asks and is answered, from its first request to its result. A transcript of a
sequence of programs is a transcript of the first followed by one of the rest, and whoever answers
by a rule gets exactly one. Main definitions: `Program.Transcript`, `Running.Goes`. Main results:
`Program.Transcript.bind_iff`, `Program.Transcript.exists_unique`, `Running.Goes.bind_iff`.
-/

set_option autoImplicit false

namespace BrowserScript

namespace Program

variable {Q : Type} {A : Q → Type} {α β : Type}

/-- A request together with its answer. -/
structure Entry (Q : Type) (A : Q → Type) where
  request : Q
  answer : A request

/-- A program can exchange these requests and answers, in this order, and end with this result. -/
inductive Transcript : Program Q A α → List (Entry Q A) → α → Prop
  | done (result : α) : Transcript (.done result) [] result
  | ask {request : Q} {next : A request → Program Q A α} {log : List (Entry Q A)} {result : α}
      (answer : A request) (rest : Transcript (next answer) log result) :
      Transcript (.ask request next) (⟨request, answer⟩ :: log) result

namespace Transcript

variable {log : List (Entry Q A)}

theorem pure_iff {wanted result : α} :
    Transcript (pure wanted : Program Q A α) log result ↔ log = [] ∧ result = wanted := by
  constructor
  · intro run
    cases run
    exact ⟨rfl, rfl⟩
  · rintro ⟨rfl, rfl⟩
    exact .done _

theorem request_iff {request : Q} {result : A request} :
    Transcript (Program.request request : Program Q A (A request)) log result ↔
      log = [⟨request, result⟩] := by
  constructor
  · intro run
    cases run with
    | ask answer rest =>
      cases rest
      rfl
  · rintro rfl
    exact .ask result (.done result)

/-- A sequence of programs is gone through one after the other. -/
theorem bind_iff {first : Program Q A α} {next : α → Program Q A β} {result : β} :
    Transcript (first >>= next) log result ↔
      ∃ middle before after, Transcript first before middle ∧
        Transcript (next middle) after result ∧ log = before ++ after := by
  induction first generalizing log with
  | done middle =>
    constructor
    · intro run
      exact ⟨middle, [], log, .done middle, run, rfl⟩
    · rintro ⟨_, _, after, ⟨⟩, rest, rfl⟩
      exact rest
  | ask request further induction =>
    constructor
    · intro run
      cases run with
      | ask answer rest =>
        obtain ⟨middle, before, after, start, finish, rfl⟩ := (induction answer).mp rest
        exact ⟨middle, _, after, .ask answer start, finish, rfl⟩
    · rintro ⟨middle, _, after, start, finish, rfl⟩
      cases start with
      | ask answer start =>
        exact .ask answer ((induction answer).mpr ⟨middle, _, after, start, finish, rfl⟩)

end Transcript

/-- Every answer is what the rule gives for the request after the exchanges before it. -/
def Follows (rule : List (Entry Q A) → (request : Q) → A request) :
    (past log : List (Entry Q A)) → Prop
  | _, [] => True
  | past, entry :: rest =>
    entry.answer = rule past entry.request ∧ Follows rule (past ++ [entry]) rest

/-- A program comes to an end whatever it is answered, and in one way only. -/
theorem Transcript.exists_unique (program : Program Q A α)
    (rule : List (Entry Q A) → (request : Q) → A request) (past : List (Entry Q A)) :
    ∃! run : List (Entry Q A) × α, Transcript program run.1 run.2 ∧ Follows rule past run.1 := by
  induction program generalizing past with
  | done result =>
    refine ⟨([], result), ⟨.done result, trivial⟩, ?_⟩
    rintro ⟨log, other⟩ ⟨run, _⟩
    cases run
    rfl
  | ask request next induction =>
    obtain ⟨⟨log, result⟩, ⟨run, follows⟩, unique⟩ :=
      induction (rule past request) (past ++ [⟨request, rule past request⟩])
    refine ⟨(⟨request, rule past request⟩ :: log, result), ⟨.ask _ run, rfl, follows⟩, ?_⟩
    rintro ⟨_, other⟩ ⟨run, follows⟩
    cases run with
    | ask answer rest =>
      obtain ⟨answered, follows⟩ := follows
      change answer = rule past request at answered
      subst answered
      have same := unique (_, other) ⟨rest, follows⟩
      rw [Prod.mk.injEq] at same
      rw [same.1, same.2]

end Program

namespace Run

/-- What a run exchanges with its surroundings. -/
abbrev Log : Type := List (Program.Entry Run.Request Run.Request.Answer)

end Run

/-- A piece of a run over any requests: it changes the state of the run and may end it. -/
abbrev RunningOver (Q : Type) (A : Q → Type) (α : Type) : Type :=
  ExceptT RunError (StateT RunState (Program Q A)) α

namespace Running

open Run

variable {Q : Type} {A : Q → Type} {α β : Type} {before after : RunState}
  {log : List (Program.Entry Q A)}

/-- From one state, a piece of a run can exchange these requests and answers and end like this in
another state. -/
def Goes (piece : RunningOver Q A α) (before : RunState) (log : List (Program.Entry Q A))
    (outcome : Except RunError α) (after : RunState) : Prop :=
  Program.Transcript (piece.run.run before) log (outcome, after)

namespace Goes

theorem pure_iff {value : α} {outcome : Except RunError α} :
    Goes (pure value) before log outcome after ↔
      log = [] ∧ outcome = .ok value ∧ after = before := by
  unfold Goes
  simp only [ExceptT.run_pure, StateT.run_pure, Program.Transcript.pure_iff, Prod.mk.injEq]

theorem throw_iff {error : RunError} {outcome : Except RunError α} :
    Goes (throw error) before log outcome after ↔
      log = [] ∧ outcome = .error error ∧ after = before := by
  unfold Goes
  simp only [ExceptT.run_throw, StateT.run_pure, Program.Transcript.pure_iff, Prod.mk.injEq]

theorem lift_iff {program : Program Q A α} {outcome : Except RunError α} :
    Goes (ExceptT.lift (StateT.lift program)) before log outcome after ↔
      ∃ value, Program.Transcript program log value ∧ outcome = .ok value ∧ after = before := by
  have unfolded : (ExceptT.lift (StateT.lift program) : RunningOver Q A α).run.run before =
      (program >>= fun value => pure (value, before)) >>= fun (value, state) =>
        pure (.ok value, state) := rfl
  unfold Goes
  simp only [unfolded, bind_assoc, pure_bind, Program.Transcript.bind_iff,
    Program.Transcript.pure_iff, Prod.mk.injEq]
  constructor
  · rintro ⟨value, _, _, run, ⟨rfl, rfl, rfl⟩, rfl⟩
    rw [List.append_nil]
    exact ⟨value, run, rfl, rfl⟩
  · rintro ⟨value, run, rfl, rfl⟩
    exact ⟨value, log, [], run, ⟨rfl, rfl, rfl⟩, (List.append_nil log).symm⟩

theorem ask_iff {log : Log} {program : RunProgram α} {outcome : Except RunError α} :
    Goes (ask program) before log outcome after ↔
      ∃ value, Program.Transcript program log value ∧ outcome = .ok value ∧ after = before :=
  lift_iff

/-- A sequence ends with its first failure. -/
theorem bind_iff {first : RunningOver Q A α} {next : α → RunningOver Q A β}
    {outcome : Except RunError β} :
    Goes (first >>= next) before log outcome after ↔
      (∃ error, Goes first before log (.error error) after ∧ outcome = .error error) ∨
      ∃ value middle opening rest, Goes first before opening (.ok value) middle ∧
        Goes (next value) middle rest outcome after ∧ log = opening ++ rest := by
  unfold Goes
  rw [ExceptT.run_bind, StateT.run_bind, Program.Transcript.bind_iff]
  constructor
  · rintro ⟨⟨result, middle⟩, opening, rest, start, finish, rfl⟩
    cases result with
    | error error =>
      obtain ⟨rfl, same⟩ := Program.Transcript.pure_iff.mp finish
      rw [Prod.mk.injEq] at same
      obtain ⟨rfl, rfl⟩ := same
      rw [List.append_nil]
      exact .inl ⟨error, start, rfl⟩
    | ok value => exact .inr ⟨value, middle, opening, rest, start, finish, rfl⟩
  · rintro (⟨error, start, rfl⟩ | ⟨value, middle, opening, rest, start, finish, rfl⟩)
    · exact ⟨(.error error, after), log, [], start, Program.Transcript.pure_iff.mpr ⟨rfl, rfl⟩,
        (List.append_nil log).symm⟩
    · exact ⟨(.ok value, middle), opening, rest, start, finish, rfl⟩

theorem get_bind_iff {next : RunState → RunningOver Q A β} {outcome : Except RunError β} :
    Goes (get >>= next) before log outcome after ↔ Goes (next before) before log outcome after :=
  Iff.rfl

theorem modify_bind_iff {change : RunState → RunState} {next : PUnit → RunningOver Q A β}
    {outcome : Except RunError β} :
    Goes (modify change >>= next) before log outcome after ↔
      Goes (next ⟨⟩) (change before) log outcome after :=
  Iff.rfl

/-- A program that does not touch the state comes before the rest. -/
theorem ask_bind_iff {log : Log} {program : RunProgram α} {next : α → Running β}
    {outcome : Except RunError β} :
    Goes (ask program >>= next) before log outcome after ↔
      ∃ value opening rest, Program.Transcript program opening value ∧
        Goes (next value) before rest outcome after ∧ log = opening ++ rest := by
  rw [bind_iff]
  constructor
  · rintro (⟨error, start, rfl⟩ | ⟨value, middle, opening, rest, start, finish, rfl⟩)
    · obtain ⟨_, _, same, _⟩ := ask_iff.mp start
      cases same
    · obtain ⟨_, run, same, rfl⟩ := ask_iff.mp start
      cases same
      exact ⟨value, opening, rest, run, finish, rfl⟩
  · rintro ⟨value, opening, rest, run, finish, rfl⟩
    exact .inr ⟨value, before, opening, rest, ask_iff.mpr ⟨value, run, rfl, rfl⟩, finish, rfl⟩

end Goes

end Running

end BrowserScript

import BrowserScript.Proofs.Run.Standing

/-!
# Cancellation

From the moment on at which a run is no longer wanted it begins nothing any more: it goes on with
what it has begun last, if with anything, and where it would have to begin something else it ends as
cancelled. Main definitions: `Run.Cancels`, `Run.Orderly`, `Run.Winds`. Main result:
`Run.script_winds_down`.
-/

set_option autoImplicit false

namespace BrowserScript.Run

open Running Standing

/-! ## What an account says -/

/-- What a note says is begun. -/
def Note.begun? : Note → Option Activation
  | begins activation => some activation
  | _ => none

/-- What was begun last. -/
def Account.latest (account : Account) : Option Activation :=
  (account.filterMap fun entry => entry.request.begun?).getLast?

theorem latest_cons (entry : Program.Entry Note Note.Answer) (account : Account) :
    Account.latest (entry :: account) = account.latest.or entry.request.begun? := by
  unfold Account.latest
  cases began : entry.request.begun? with
  | none => simp only [List.filterMap_cons, began, Option.or_none]
  | some activation =>
    simp only [List.filterMap_cons, began, List.getLast?_cons]
    cases (account.filterMap fun entry => entry.request.begun?).getLast? <;> rfl

/-- What a check finds: whether the run is to stop. -/
def Note.finding : Program.Entry Note Note.Answer → Option Bool
  | ⟨.checks _, found⟩ => some found
  | _ => none

/-- Between these parts of an account the run has become unwanted. -/
structure Cancels (begun rest : Account) : Prop where
  unset : ∀ entry ∈ begun, Note.finding entry ≠ some true
  set : ∀ entry ∈ rest, Note.finding entry ≠ some false
  /-- A check and the beginning it lets through are one move: nothing happens in between. -/
  prompt : ∀ activation later, rest ≠ ⟨.begins activation, ()⟩ :: later

theorem Cancels.stopped {begun rest : Account} (cancels : Cancels begun rest) {next : Activation}
    {stopped : Bool} (checks : ⟨.checks next, stopped⟩ ∈ rest) : stopped = true := by
  cases stopped with
  | true => rfl
  | false => exact absurd rfl (cancels.set _ checks)

/-- Everything is begun right after a check that lets it through, such a check begins what it asks
about, and work is only for what was begun last. -/
structure Orderly (account : Account) : Prop where
  begins_checked : ∀ early activation late, account = early ++ ⟨.begins activation, ()⟩ :: late →
    ∃ earlier, early = earlier ++ [⟨.checks activation, false⟩]
  checks_begin : ∀ early next late, account = early ++ ⟨.checks next, false⟩ :: late →
    ∃ later, late = ⟨.begins next, ()⟩ :: later
  works_begun : ∀ early activation request answer late,
    account = early ++ ⟨.asks (some activation) request, answer⟩ :: late →
      Account.latest early = some activation
  aside : ∀ request answer, ⟨.asks none request, answer⟩ ∈ account →
    request.isAside = true ∨ ∃ target, request = .acquire target

/-- The run ends as cancelled at this top-level step, and names no step. -/
def CancelledAt (index : Nat) (result : RunResult) : Prop :=
  result.code = .cancelled ∧ result.stepIndex = some index.toUInt64 ∧
    result.stepPath = none ∧ result.stepKind = none

/-- How a run comes to its end once it is no longer wanted. -/
structure Winds (target : String) (begun rest : Account) (result : RunResult) : Prop where
  begins_nothing : ∀ activation, ⟨.begins activation, ()⟩ ∉ rest
  /-- It still works for what was begun last, and for nothing else. -/
  works_on : ∀ activation request answer, ⟨.asks (some activation) request, answer⟩ ∈ rest →
    begun.latest = some activation
  /-- Where it would have to begin something, it ends as cancelled, at the top-level step it has
  reached. -/
  cancelled : ∀ next stopped, ⟨.checks next, stopped⟩ ∈ rest →
    next.Follows begun.latest ∧ CancelledAt next.index result
  /-- There it only lets go of its session and its turn. -/
  leaves : ∀ early next stopped late, rest = early ++ ⟨.checks next, stopped⟩ :: late →
    ∀ entry ∈ late, ∃ request answer, entry = ⟨.asks none request, answer⟩ ∧
      request.isLeaving = true
  /-- Where it has nothing more to begin, it does not end as cancelled. -/
  uncancelled : (∀ next stopped, ⟨.checks next, stopped⟩ ∉ rest) → result.code ≠ .cancelled
  /-- If it is not its turn yet, it touches neither session nor page. -/
  unstarted : (⟨.asks none (.acquire target), ()⟩ ∈ rest ∨
      ∀ next stopped, ⟨.checks next, stopped⟩ ∉ begun) →
    CancelledAt 0 result ∧ ∀ entry ∈ Account.log (begun ++ rest),
      (∀ session call, entry.request ≠ .page session call) ∧
        ∀ other, entry.request ≠ .attach other

/-! ## What moves an account makes -/

namespace Standing

variable {start middle standing : Standing} {account : Account}
  {entry : Program.Entry Note Note.Answer}

/-- A run that was found not to be wanted only leaves. -/
theorem Leads.leaves {next : Activation} (leads : Leads start account standing)
    (found : start = stopped next) :
    standing = stopped next ∧ ∀ entry ∈ account, ∃ request answer,
      entry = ⟨.asks none request, answer⟩ ∧ request.isLeaving = true := by
  induction leads with
  | stays => exact ⟨found, fun _ member => absurd member List.not_mem_nil⟩
  | moves move rest induction =>
    subst found
    cases move with
    | leaves leaving =>
      obtain ⟨stays, others⟩ := induction rfl
      exact ⟨stays, List.forall_mem_cons.mpr ⟨⟨_, _, rfl, leaving⟩, others⟩⟩

/-- A run that has its turn does not wait for it again. -/
theorem Leads.queued_only (leads : Leads start account standing) (queues : standing = queued) :
    start = queued ∧ ∀ next stopped, ⟨.checks next, stopped⟩ ∉ account := by
  induction leads with
  | stays => exact ⟨queues, fun _ _ => List.not_mem_nil⟩
  | moves move rest induction =>
    obtain ⟨rfl, others⟩ := induction queues
    cases move with
    | queues =>
      refine ⟨rfl, fun next stopped member => ?_⟩
      rcases List.mem_cons.mp member with first | member
      · cases first
      · exact others next stopped member

/-- A run takes its turn where it has been waiting for it. -/
theorem Leads.taken {target : String} (leads : Leads start account standing)
    (takes : ⟨.asks none (.acquire target), ()⟩ ∈ account) : start = queued := by
  induction leads with
  | stays => cases takes
  | moves move rest induction =>
    rcases List.mem_cons.mp takes with rfl | member
    · cases move with
      | enters => rfl
      | passes aside => cases aside
      | leaves leaving => cases leaving
    · cases induction member
      exact (Leads.queued_only (.moves move .stays) rfl).1

/-- A check that finds the run unwanted decides where it ends up standing. -/
theorem Leads.stopped_at {next : Activation} (leads : Leads start account standing)
    (found : ⟨.checks next, true⟩ ∈ account) : standing = stopped next := by
  obtain ⟨early, late, rfl⟩ := List.append_of_mem found
  obtain ⟨middle, _, onward⟩ := Leads.append_iff.mp leads
  cases onward with
  | moves move rest =>
    cases move with
    | stops => exact (rest.leaves rfl).1

/-- A run ends up unwanted only where a check has found it so. -/
theorem Leads.found {next : Activation} (leads : Leads start account standing)
    (stopped : standing = .stopped next) :
    start = .stopped next ∨ ⟨.checks next, true⟩ ∈ account := by
  induction leads with
  | stays => exact .inl stopped
  | moves move rest induction =>
    rcases induction stopped with rfl | member
    · cases move with
      | stops => exact .inr (.head _)
      | leaves => exact .inl rfl
    · exact .inr (.tail _ member)

/-- A check that lets something through comes right before the run may begin it. -/
theorem Leads.cleared_by {next : Activation} (leads : Leads start account standing)
    (clear : standing = cleared next) :
    start = cleared next ∧ account = [] ∨
      ∃ earlier, account = earlier ++ [⟨.checks next, false⟩] := by
  induction leads with
  | stays => exact .inl ⟨clear, rfl⟩
  | moves move rest induction =>
    rcases induction clear with ⟨rfl, rfl⟩ | ⟨earlier, rfl⟩
    · cases move with
      | clears => exact .inr ⟨[], rfl⟩
    · exact .inr ⟨_ :: earlier, rfl⟩

/-- A run that ends up anywhere else begins what it may begin. -/
theorem Leads.begins_cleared {next : Activation} (leads : Leads (cleared next) account standing)
    (other : standing ≠ cleared next) : ∃ later, account = ⟨.begins next, ()⟩ :: later := by
  cases leads with
  | stays => exact absurd rfl other
  | moves move rest =>
    cases move with
    | begins => exact ⟨_, rfl⟩

/-- Between activations there is no work. -/
theorem Leads.aside {request : Request} {answer : request.Answer}
    (leads : Leads start account standing) (asked : ⟨.asks none request, answer⟩ ∈ account) :
    request.isAside = true ∨ ∃ target, request = .acquire target := by
  obtain ⟨early, late, rfl⟩ := List.append_of_mem asked
  obtain ⟨middle, _, onward⟩ := Leads.append_iff.mp leads
  cases onward with
  | moves move rest =>
    cases move with
    | queues => exact .inl rfl
    | enters => exact .inr ⟨_, rfl⟩
    | passes aside => exact .inl aside
    | leaves leaving => exact .inl (by cases request <;> first | rfl | exact leaving)

/-- The run stands where it does with this as the last thing begun. -/
def Near (here : Option Activation) : Standing → Prop
  | queued => here = none
  | within last => last = here
  | cleared _ => True
  | stopped next => next.Follows here

theorem Moves.near {here : Option Activation} (move : Moves start entry middle)
    (near : start.Near here) : middle.Near (entry.request.begun?.or here) := by
  cases move with
  | queues | works _ | passes _ | leaves _ => exact near
  | enters => exact near.symm
  | clears _ => trivial
  | begins => rfl
  | stops follows =>
    cases near
    exact follows

theorem Leads.near {here : Option Activation} (leads : Leads start account standing)
    (near : start.Near here) : standing.Near (account.latest.or here) := by
  induction leads generalizing here with
  | stays => exact near
  | moves move rest induction =>
    rw [latest_cons, Option.or_assoc]
    exact induction (move.near near)

/-- From the beginning on, a run stands where it does with what it has begun last. -/
theorem Leads.near_latest (leads : Leads queued account standing) :
    standing.Near account.latest := by
  have nothing : queued.Near none := rfl
  have near := leads.near nothing
  rwa [Option.or_none] at near

/-- What an unwanted run may still do. -/
def Finishes (here : Option Activation) : Program.Entry Note Note.Answer → Prop
  | ⟨.checks next, _⟩ => next.Follows here
  | ⟨.begins _, _⟩ => False
  | ⟨.asks (some activation) _, _⟩ => here = some activation
  | ⟨.asks none request, _⟩ => request.isAside = true ∨ ∃ target, request = .acquire target

/-- The run may not begin anything without asking. -/
def Asks (standing : Standing) : Prop := ∀ next, standing ≠ cleared next

/-- One move of a run that is no longer wanted. -/
theorem Moves.finishes {here : Option Activation} (move : Moves start entry middle)
    (near : start.Near here) (asks : start.Asks)
    (set : Note.finding entry ≠ some false) :
    middle.Near here ∧ middle.Asks ∧ Finishes here entry := by
  cases move with
  | queues => exact ⟨near, asks, .inl rfl⟩
  | enters => exact ⟨near.symm, fun _ same => (by cases same), .inr ⟨_, rfl⟩⟩
  | works work => exact ⟨near, asks, near.symm⟩
  | passes aside => exact ⟨near, asks, .inl aside⟩
  | clears follows => exact absurd rfl set
  | begins => exact absurd rfl (asks _)
  | stops follows =>
    cases near
    exact ⟨follows, fun _ same => (by cases same), follows⟩
  | @leaves next request answer leaving =>
    exact ⟨near, asks, .inl (by cases request <;> first | rfl | exact leaving)⟩

/-- A run that is no longer wanted only finishes what it has begun. -/
theorem Leads.finishes {here : Option Activation} (leads : Leads start account standing)
    (near : start.Near here) (asks : start.Asks)
    (set : ∀ entry ∈ account, Note.finding entry ≠ some false) :
    standing.Near here ∧ ∀ entry ∈ account, Finishes here entry := by
  induction leads with
  | stays => exact ⟨near, fun _ member => absurd member List.not_mem_nil⟩
  | moves move rest induction =>
    obtain ⟨here, later⟩ := List.forall_mem_cons.mp set
    obtain ⟨still, goesOn, first⟩ := move.finishes near asks here
    obtain ⟨ends, others⟩ := induction still goesOn later
    exact ⟨ends, List.forall_mem_cons.mpr ⟨first, others⟩⟩

/-- What a run with nothing begun exchanges is neither with a session nor with a page. -/
theorem Finishes.untouched {account : Account} (finishes : ∀ entry ∈ account, Finishes none entry)
    {entry : Program.Entry Request Request.Answer} (member : entry ∈ account.log) :
    (∀ session call, entry.request ≠ .page session call) ∧
      ∀ other, entry.request ≠ .attach other := by
  obtain ⟨⟨note, answer⟩, noted, exchanged⟩ := List.mem_flatMap.mp member
  have allowed := finishes _ noted
  cases note with
  | checks next =>
    rw [List.mem_singleton.mp exchanged]
    exact ⟨fun _ _ same => (by cases same), fun _ same => by cases same⟩
  | begins activation => cases allowed
  | asks behalf request =>
    rw [List.mem_singleton.mp exchanged]
    cases behalf with
    | some activation => cases allowed
    | none =>
      rcases allowed with aside | ⟨target, rfl⟩
      · refine ⟨fun session call same => ?_, fun other same => ?_⟩
        · cases same
          cases aside
        · cases same
          cases aside
      · exact ⟨fun _ _ same => (by cases same), fun _ same => by cases same⟩

end Standing

/-! ## Cancelled runs -/

/-- What a run reports fits with where it stands at last only if it has begun what it could. -/
theorem Standing.Told.asks {result : RunResult} {standing : Standing}
    (told : standing.Told result) : standing.Asks := by
  rintro next rfl
  exact told

theorem orderly_of_leads {account : Account} {standing : Standing}
    (leads : Leads queued account standing) (asks : standing.Asks) : Orderly account where
  begins_checked := by
    rintro early activation late rfl
    obtain ⟨middle, before, onward⟩ := Leads.append_iff.mp leads
    cases onward with
    | moves move rest =>
      cases move with
      | begins =>
        rcases before.cleared_by rfl with ⟨same, _⟩ | checked
        · cases same
        · exact checked
  checks_begin := by
    rintro early next late rfl
    obtain ⟨middle, _, onward⟩ := Leads.append_iff.mp leads
    cases onward with
    | moves move rest =>
      cases move with
      | clears => exact rest.begins_cleared (asks next)
  works_begun := by
    rintro early activation request answer late rfl
    obtain ⟨middle, before, onward⟩ := Leads.append_iff.mp leads
    have near := before.near_latest
    cases onward with
    | moves move rest =>
      cases move with
      | works => exact near.symm
  aside := fun _ _ asked => leads.aside asked

/-- From the moment on at which it becomes unwanted, a run winds down. -/
theorem winds_of_leads {target : String} {begun rest : Account} {result : RunResult}
    {standing : Standing} (leads : Leads queued (begun ++ rest) standing)
    (told : standing.Told result) (cancels : Cancels begun rest) :
    Winds target begun rest result := by
  obtain ⟨middle, early, late⟩ := Leads.append_iff.mp leads
  have near : middle.Near begun.latest := early.near_latest
  have asks : middle.Asks := by
    rintro next rfl
    obtain ⟨later, same⟩ := late.begins_cleared (told.asks next)
    exact cancels.prompt next later same
  obtain ⟨_, finishes⟩ := late.finishes near asks cancels.set
  refine ⟨fun activation member => finishes _ member,
    fun activation request answer member => finishes _ member, ?_, ?_, ?_, ?_⟩
  · intro next stopped member
    obtain rfl := cancels.stopped member
    obtain rfl := late.stopped_at member
    exact ⟨finishes _ member, told⟩
  · rintro before next stopped after rfl
    obtain rfl := cancels.stopped (List.mem_append_right before (.head after))
    obtain ⟨_, _, onward⟩ := Leads.append_iff.mp late
    cases onward with
    | moves move rest =>
      cases move with
      | stops => exact (rest.leaves rfl).2
  · intro unasked
    match standing, told with
    | .within (some here), told => exact told
    | .stopped next, _ =>
      rcases leads.found rfl with same | member
      · cases same
      · rcases List.mem_append.mp member with member | member
        · exact absurd rfl (cancels.unset _ member)
        · exact absurd member (unasked next true)
  · intro unstarted
    have unasked : ∀ next stopped, ⟨.checks next, stopped⟩ ∉ begun := by
      rcases unstarted with taken | unasked
      · obtain rfl := late.taken taken
        exact (early.queued_only rfl).2
      · exact unasked
    have silent : ∀ entry ∈ begun, Note.finding entry ≠ some false := by
      rintro ⟨note, answer⟩ member found
      cases note with
      | checks next => exact unasked next answer member
      | begins _ | asks _ _ => cases found
    have set := List.forall_mem_append.mpr ⟨silent, cancels.set⟩
    have nothing : queued.Near none := rfl
    obtain ⟨ends, untouched⟩ := leads.finishes nothing (fun _ same => by cases same) set
    refine ⟨?_, fun entry member => Finishes.untouched untouched member⟩
    match standing, told, ends with
    | .stopped next, told, ends =>
      cases ends
      exact told
    | .within (some here), _, ends => cases ends

/-- Cancellation. What a run exchanges is what the run with notes exchanges, its notes left out.
However it is answered it comes to an end, and it begins everything right after a check that lets it
through. From the moment on at which it is no longer wanted, it winds down. -/
theorem script_winds_down (settings : Settings) (program : Script) (overrides : Variables)
    (options : RunOptions) :
    (∀ log result,
      Program.Transcript (Run.script settings program overrides options) log result ↔
        ∃ account : Account, Program.Transcript
          (Noted.script settings program overrides options) account result ∧
            account.log = log) ∧
    (∀ rule, ∃! run : Account × RunResult,
      Program.Transcript (Noted.script settings program overrides options) run.1 run.2 ∧
        Program.Follows rule [] run.1) ∧
    (∀ account result,
      Program.Transcript (Noted.script settings program overrides options) account result →
        Orderly account) ∧
    ∀ begun rest result,
      Program.Transcript (Noted.script settings program overrides options) (begun ++ rest)
        result → Cancels begun rest → Winds options.target begun rest result := by
  refine ⟨fun log result => Noted.transcript_iff,
    fun rule => Program.Transcript.exists_unique _ rule [], fun account result run => ?_,
    fun begun rest result run cancels => ?_⟩
  · obtain ⟨standing, leads, told⟩ := script_stands run
    exact orderly_of_leads leads told.asks
  · obtain ⟨standing, leads, told⟩ := script_stands run
    exact winds_of_leads leads told cancels

/-- A run that becomes unwanted while a key is down still lets go of the key, and then does not
begin the second round of its loop. -/
theorem loop_winds_down :
    ∃ program begun rest result,
      Program.Transcript (Noted.script {} program Variables.empty ⟨"T1", false⟩) (begun ++ rest)
        result ∧ Cancels begun rest ∧
      Account.latest begun = some (.iteration [0] 0) ∧ CancelledAt 0 result ∧
      Account.log rest = [⟨.page "S1" (.input (.keyUp "a")), .ok .null⟩, ⟨.sleep 5, ()⟩,
        ⟨.isCancelled, true⟩, ⟨.release "T1", ()⟩, ⟨.now, (7 : Nat)⟩] := by
  let program : Script := ⟨"s", "", none, Variables.empty,
    [.mk (.key "a" .press) none (some ⟨2, 5, none⟩) none .null]⟩
  let begun : Account := [⟨.asks none .now, (3 : Nat)⟩, ⟨.asks none (.acquire "T1"), ()⟩,
    ⟨.checks .whole, false⟩, ⟨.begins .whole, ()⟩,
    ⟨.asks (some .whole) (.attach "T1"), .ok ⟨"T1", "S1", true, 1⟩⟩,
    ⟨.checks (.step [0]), false⟩, ⟨.begins (.step [0]), ()⟩,
    ⟨.checks (.iteration [0] 0), false⟩, ⟨.begins (.iteration [0] 0), ()⟩,
    ⟨.asks (some (.iteration [0] 0)) (.page "S1" (.input (.keyDown "a"))), .ok .null⟩]
  let rest : Account := [
    ⟨.asks (some (.iteration [0] 0)) (.page "S1" (.input (.keyUp "a"))), .ok .null⟩,
    ⟨.asks none (.sleep 5), ()⟩, ⟨.checks (.iteration [0] 1), true⟩,
    ⟨.asks none (.release "T1"), ()⟩, ⟨.asks none .now, (7 : Nat)⟩]
  have run : Program.Transcript (Noted.script {} program Variables.empty ⟨"T1", false⟩)
      (begun ++ rest) _ :=
    .ask _ (.ask _ (.ask _ (.ask _ (.ask _ (.ask _ (.ask _ (.ask _ (.ask _ (.ask _ (.ask _ (.ask _
      (.ask _ (.ask _ (.ask _ (.done _)))))))))))))))
  have cancels : Cancels begun rest := by
    refine ⟨?_, ?_, fun _ _ same => by cases (List.cons.inj same).1⟩
    · simp [begun, Note.finding]
    · simp [rest, Note.finding]
  have winds := (script_winds_down {} program Variables.empty ⟨"T1", false⟩).2.2.2 begun rest _ run
    cancels
  exact ⟨program, begun, rest, _, run, cancels, rfl, (winds.cancelled (.iteration [0] 1) true
    (.tail _ (.tail _ (.head _)))).2, rfl⟩

end BrowserScript.Run

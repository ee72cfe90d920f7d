import BrowserScript.Proofs.Run.Transcript

/-!
# Searching for an element

The selectors are planned for one round after the other, an interval apart, as long as another
round fits into the time limit. When only sleeping takes time, the lookups are made as planned up to
the first one whose answer decides, and all of them are made if none does. Main definitions:
`Run.Answering`, `Lookup.plan`, `Lookup.Decides`, `Lookup.Exhausts`. Main results:
`Lookup.round_searches`, `Lookup.rounds_search`, `Lookup.find_as_planned`.
-/

set_option autoImplicit false

namespace BrowserScript

namespace Program

variable {Q : Type} {A : Q → Type}

theorem follows_append {rule : List (Entry Q A) → (request : Q) → A request}
    {past first second : List (Entry Q A)} :
    Follows rule past (first ++ second) ↔
      Follows rule past first ∧ Follows rule (past ++ first) second := by
  induction first generalizing past with
  | nil => simp [Follows]
  | cons entry rest induction =>
    rw [List.cons_append, Follows, Follows, induction, and_assoc, List.append_assoc]
    rfl

end Program

/-! ## The surroundings of a search -/

namespace Run

namespace Log

/-- How long a log has slept. -/
def slept : Log → Nat
  | [] => 0
  | ⟨.sleep ms, _⟩ :: rest => ms + slept rest
  | _ :: rest => slept rest

/-- The page calls of a log that begins at a time, each with its time and session. Only sleeping
takes time. -/
def calls : Nat → Log → List (Nat × String × PageCall)
  | _, [] => []
  | time, ⟨.sleep ms, _⟩ :: rest => calls (time + ms) rest
  | time, ⟨.page session call, _⟩ :: rest => (time, session, call) :: calls time rest
  | time, _ :: rest => calls time rest

theorem slept_append (first second : Log) :
    slept (first ++ second) = slept first + slept second := by
  induction first with
  | nil => exact (Nat.zero_add _).symm
  | cons entry rest induction =>
    obtain ⟨request, answer⟩ := entry
    cases request with
    | sleep ms => exact (congrArg (ms + ·) induction).trans (Nat.add_assoc _ _ _).symm
    | _ => exact induction

theorem calls_append (time : Nat) (first second : Log) :
    calls time (first ++ second) = calls time first ++ calls (time + first.slept) second := by
  induction first generalizing time with
  | nil => rfl
  | cons entry rest induction =>
    obtain ⟨request, answer⟩ := entry
    cases request with
    | sleep ms =>
      have later := induction (time + ms)
      rw [Nat.add_assoc] at later
      exact later
    | page session call => exact congrArg ((time, session, call) :: ·) (induction time)
    | _ => exact induction time

theorem slept_paused (past opening : Log) (ms : Nat) (awake : Unit) :
    slept (past ++ opening ++ [⟨.sleep ms, awake⟩]) = past.slept + opening.slept + ms := by
  rw [slept_append, slept_append]
  rfl

theorem calls_paused (time : Nat) (past opening : Log) (ms : Nat) (awake : Unit) :
    calls time (past ++ opening ++ [⟨.sleep ms, awake⟩]) =
      calls time past ++ calls (time + past.slept) opening := by
  rw [calls_append, calls_append]
  exact List.append_nil _

end Log

/-- The clock starts at a time and moves only while the run sleeps, and the page gives its answers
one after the other. -/
structure Answering (start : Nat) (answers : Nat → Except PageError Json)
    (rule : Log → (request : Request) → request.Answer) : Prop where
  now : ∀ past, rule past .now = start + past.slept
  page : ∀ past session call, rule past (.page session call) = answers (past.calls start).length

end Run

namespace Lookup

open Run
open Program (Transcript Follows)

variable {lookup : Lookup} {session : String} {selectors : Selectors} {start timeout : Nat}
  {answers : Nat → Except PageError Json} {rule : Log → (request : Request) → request.Answer}
  {past log : Log}

/-! ## What an answer decides -/

/-- What the answer to the lookup of a selector decides: an error ends the search, and so does a
match, if it is visible where that is wanted. -/
def verdict? (lookup : Lookup) (selector : String) :
    Except PageError Json → Option (Except PageError Element)
  | .error error => some (.error error)
  | .ok value =>
    match LookupAnswer.ofJson value with
    | .error error => some (.error error)
    | .ok answer =>
      if answer.found = true ∧ (lookup.visible = true → answer.visible = true) then
        some (.ok (answer.element selector))
      else none

theorem accepts_iff (lookup : Lookup) (answer : LookupAnswer) :
    lookup.accepts answer = true ↔
      answer.found = true ∧ (lookup.visible = true → answer.visible = true) := by
  cases wanted : lookup.visible <;> simp [accepts, wanted]

theorem matchedBy_of_verdict {selector : String} {answer : Except PageError Json}
    {element : Element} (decided : lookup.verdict? selector answer = some (.ok element)) :
    element.matchedBy = selector := by
  unfold verdict? at decided
  split at decided
  · cases decided
  · split at decided
    · cases decided
    · split at decided
      · cases decided
        rfl
      · cases decided

/-- How a round reports a verdict, or that there was none. -/
def reported : Option (Except PageError Element) → Except PageError (Option Element)
  | none => .ok none
  | some (.ok element) => .ok (some element)
  | some (.error error) => .error error

/-- How a search reports a verdict. -/
def concluded : Except PageError Element → Except LookupError Element
  | .ok element => .ok element
  | .error error => .error (.page error)

/-! ## Plans -/

/-- The lookups of so many rounds, each with its time: the selectors in order, in every round. -/
def plan (lookup : Lookup) (selectors : Selectors) (start first count : Nat) :
    List (Nat × String) :=
  (List.range' first count).flatMap fun number =>
    selectors.inOrder.map fun selector => (start + number * lookup.interval, selector)

/-- The page call that is planned for a time. -/
def planned (lookup : Lookup) (session : String) (entry : Nat × String) :
    Nat × String × PageCall :=
  (entry.1, session, lookup.call entry.2)

/-- Lookups are made as planned, the first of them with the given answer, until one decides. -/
inductive Search (lookup : Lookup) (answers : Nat → Except PageError Json) :
    Nat → List (Nat × String) → List (Nat × String) → Option (Except PageError Element) → Prop
  | done (next : Nat) : Search lookup answers next [] [] none
  | decides {next : Nat} {entry : Nat × String} {verdict : Except PageError Element}
      (decided : lookup.verdict? entry.2 (answers next) = some verdict)
      (rest : List (Nat × String)) :
      Search lookup answers next (entry :: rest) [entry] (some verdict)
  | goesOn {next : Nat} {entry : Nat × String} {rest made : List (Nat × String)}
      {verdict : Option (Except PageError Element)}
      (undecided : lookup.verdict? entry.2 (answers next) = none)
      (onward : Search lookup answers (next + 1) rest made verdict) :
      Search lookup answers next (entry :: rest) (entry :: made) verdict

namespace Search

variable {next : Nat} {first second made later : List (Nat × String)}
  {verdict : Option (Except PageError Element)} {decision : Except PageError Element}

theorem append (search : Search lookup answers next first made none)
    (onward : Search lookup answers (next + first.length) second later verdict) :
    Search lookup answers next (first ++ second) (made ++ later) verdict := by
  generalize undecided : (none : Option (Except PageError Element)) = ending at search
  induction search with
  | done => exact onward
  | decides => cases undecided
  | goesOn missed _ induction =>
    refine .goesOn missed (induction ?_ undecided)
    rwa [List.length_cons, ← Nat.add_assoc, Nat.add_right_comm] at onward

theorem stops (search : Search lookup answers next first made (some decision))
    (second : List (Nat × String)) :
    Search lookup answers next (first ++ second) made (some decision) := by
  generalize decided : some decision = ending at search
  induction search with
  | done => cases decided
  | decides verdict rest => exact .decides verdict (rest ++ second)
  | goesOn missed _ induction => exact .goesOn missed (induction decided)

end Search

/-- The lookup at a place of the plan is the first one that decides. -/
def Decides (lookup : Lookup) (answers : Nat → Except PageError Json) (plan : List (Nat × String))
    (place : Nat) (verdict : Except PageError Element) : Prop :=
  (∃ entry, plan[place]? = some entry ∧
    lookup.verdict? entry.2 (answers place) = some verdict) ∧
  ∀ earlier entry, earlier < place → plan[earlier]? = some entry →
    lookup.verdict? entry.2 (answers earlier) = none

/-- No lookup of the plan decides. -/
def Exhausts (lookup : Lookup) (answers : Nat → Except PageError Json)
    (plan : List (Nat × String)) : Prop :=
  ∀ place entry, plan[place]? = some entry → lookup.verdict? entry.2 (answers place) = none

namespace Search

variable {next : Nat} {plan made : List (Nat × String)}
  {decision : Except PageError Element}

theorem exhausts (search : Search lookup answers next plan made none) :
    made = plan ∧ Exhausts lookup (fun place => answers (next + place)) plan := by
  generalize undecided : (none : Option (Except PageError Element)) = ending at search
  induction search with
  | done =>
    refine ⟨rfl, fun place entry planned => ?_⟩
    rw [List.getElem?_nil] at planned
    cases planned
  | decides => cases undecided
  | goesOn missed _ induction =>
    obtain ⟨rfl, others⟩ := induction undecided
    refine ⟨rfl, fun place entry planned => ?_⟩
    cases place with
    | zero =>
      cases planned
      exact missed
    | succ place =>
      simpa only [Nat.add_assoc, Nat.add_comm 1] using others place entry planned

theorem decides_first (search : Search lookup answers next plan made (some decision)) :
    ∃ place, Decides lookup (fun place => answers (next + place)) plan place decision ∧
      made = plan.take (place + 1) := by
  generalize decided : some decision = ending at search
  induction search with
  | done => cases decided
  | @decides _ entry _ verdict _ =>
    cases decided
    refine ⟨0, ⟨⟨entry, rfl, verdict⟩, fun earlier _ less => ?_⟩, rfl⟩
    exact absurd less (Nat.not_lt_zero earlier)
  | goesOn missed _ induction =>
    obtain ⟨place, ⟨⟨entry, planned, verdict⟩, before⟩, rfl⟩ := induction decided
    refine ⟨place + 1, ⟨⟨entry, planned, ?_⟩, fun earlier entry less planned => ?_⟩, rfl⟩
    · simpa only [Nat.add_assoc, Nat.add_comm 1] using verdict
    · cases earlier with
      | zero =>
        cases planned
        exact missed
      | succ earlier =>
        simpa only [Nat.add_assoc, Nat.add_comm 1] using
          before earlier entry (Nat.lt_of_succ_lt_succ less) planned

/-- The lookup that decides is the last one. -/
theorem last_decides (search : Search lookup answers next plan made (some decision)) :
    ∃ before entry answer, made = before ++ [entry] ∧
      lookup.verdict? entry.2 answer = some decision := by
  generalize decided : some decision = ending at search
  induction search with
  | done => cases decided
  | decides verdict _ =>
    cases decided
    exact ⟨[], _, _, rfl, verdict⟩
  | goesOn _ _ induction =>
    obtain ⟨before, entry, answer, rfl, verdict⟩ := induction decided
    exact ⟨_ :: before, entry, answer, rfl, verdict⟩

/-- A search that goes on longer begins alike, and does not go on once a lookup has decided. -/
theorem begins {first second early : List (Nat × String)}
    {sooner verdict : Option (Except PageError Element)}
    (short : Search lookup answers next first early sooner)
    (long : Search lookup answers next (first ++ second) made verdict) :
    early = made.take first.length ∧ ∀ decision, sooner = some decision → verdict = sooner := by
  induction short generalizing made with
  | done => exact ⟨rfl, fun _ decided => nomatch decided⟩
  | decides decided rest =>
    cases long with
    | decides again _ => exact ⟨by simp, fun _ _ => again.symm.trans decided⟩
    | goesOn missed _ =>
      rw [decided] at missed
      cases missed
  | goesOn missed _ induction =>
    cases long with
    | decides decided _ =>
      rw [missed] at decided
      cases decided
    | goesOn _ onward =>
      obtain ⟨rfl, ends⟩ := induction onward
      exact ⟨rfl, ends⟩

end Search

/-! ## Rounds -/

/-- A round goes on with the next selector unless the answer decides. -/
theorem round_cons (lookup : Lookup) (session selector : String) (rest : List String) :
    lookup.round session (selector :: rest) =
      Run.page session (lookup.call selector) >>= fun answer =>
        match lookup.verdict? selector answer with
        | some verdict => pure (reported (some verdict))
        | none => lookup.round session rest := by
  refine congrArg (Run.page session (lookup.call selector) >>= ·) (funext fun answer => ?_)
  cases answer with
  | error error => rfl
  | ok value =>
    simp only [verdict?]
    cases LookupAnswer.ofJson value with
    | error error => rfl
    | ok answer =>
      by_cases accepted : lookup.accepts answer = true
      · simp only [if_pos accepted, if_pos ((lookup.accepts_iff answer).mp accepted), reported]
      · simp only [if_neg accepted, if_neg (mt (lookup.accepts_iff answer).mpr accepted)]

/-- A round makes the lookups of its selectors, all at one time. -/
theorem round_searches (answering : Answering start answers rule) {wanted : List String}
    {result : Except PageError (Option Element)}
    (run : Transcript (lookup.round session wanted) log result) (follows : Follows rule past log) :
    ∃ made verdict,
      Search lookup answers (past.calls start).length
        (wanted.map fun selector => (start + past.slept, selector)) made verdict ∧
      log.calls (start + past.slept) = made.map (lookup.planned session) ∧
      log.slept = 0 ∧ result = reported verdict := by
  induction wanted generalizing past log with
  | nil =>
    obtain ⟨rfl, rfl⟩ := Transcript.pure_iff.mp run
    exact ⟨[], none, .done _, rfl, rfl, rfl⟩
  | cons selector rest induction =>
    rw [round_cons] at run
    obtain ⟨answer, opening, further, asked, onward, rfl⟩ := Transcript.bind_iff.mp run
    obtain rfl := Transcript.request_iff.mp asked
    obtain ⟨answered, follows⟩ := follows
    have given : answer = answers (past.calls start).length :=
      answered.trans (answering.page past session (lookup.call selector))
    subst given
    cases decided : lookup.verdict? selector (answers (past.calls start).length) with
    | some verdict =>
      rw [decided] at onward
      obtain ⟨rfl, rfl⟩ := Transcript.pure_iff.mp onward
      exact ⟨_, _, .decides decided _, rfl, rfl, rfl⟩
    | none =>
      rw [decided] at onward
      obtain ⟨made, verdict, search, calls, still, rfl⟩ := induction onward follows
      -- The call adds one answer and no time to the past.
      rw [Log.slept_append] at search calls
      rw [Log.calls_append, List.length_append] at search
      exact ⟨_, _, .goesOn decided search, congrArg (_ :: ·) calls, still, rfl⟩

/-- A round that decides ends the search; else the time is taken. -/
theorem roundOr_searches (answering : Answering start answers rule)
    {otherwise : Nat → RunProgram (Except LookupError Element)}
    {result : Except LookupError Element}
    (run : Transcript (lookup.roundOr session selectors otherwise) log result)
    (follows : Follows rule past log) :
    ∃ made verdict opening rest, log = opening ++ rest ∧
      Search lookup answers (past.calls start).length
        (selectors.inOrder.map fun selector => (start + past.slept, selector)) made verdict ∧
      opening.calls (start + past.slept) = made.map (lookup.planned session) ∧
      opening.slept = 0 ∧
      match verdict with
      | some decision => rest = [] ∧ result = concluded decision
      | none => Transcript (otherwise (start + past.slept)) rest result ∧
          Follows rule (past ++ opening) rest := by
  obtain ⟨reply, opening, rest, first, onward, rfl⟩ := Transcript.bind_iff.mp run
  obtain ⟨before, follows⟩ := Program.follows_append.mp follows
  obtain ⟨made, verdict, search, calls, still, rfl⟩ := round_searches answering first before
  cases verdict with
  | some decision =>
    refine ⟨made, some decision, opening, rest, rfl, search, calls, still, ?_⟩
    cases decision with
    | ok element | error error => exact Transcript.pure_iff.mp onward
  | none =>
    obtain ⟨time, taken, rest, clock, finish, rfl⟩ := Transcript.bind_iff.mp onward
    obtain rfl := Transcript.request_iff.mp clock
    obtain ⟨told, follows⟩ := follows
    have now : time = start + past.slept := by
      refine told.trans ((answering.now _).trans ?_)
      rw [Log.slept_append, still]
      rfl
    subst now
    refine ⟨made, none, opening ++ [⟨.now, start + past.slept⟩], rest, by simp, search, ?_, ?_,
      finish, ?_⟩
    · rw [Log.calls_append, calls]
      exact List.append_nil _
    · rw [Log.slept_append, still]
      rfl
    · rwa [List.append_assoc] at follows

theorem plan_succ (lookup : Lookup) (selectors : Selectors) (start first count : Nat) :
    lookup.plan selectors start first (count + 1) =
      (selectors.inOrder.map fun selector => (start + first * lookup.interval, selector)) ++
        lookup.plan selectors start (first + 1) count := by
  rw [plan, plan, List.range'_succ, List.flatMap_cons]

theorem plan_one (lookup : Lookup) (selectors : Selectors) (start first : Nat) :
    lookup.plan selectors start first 1 =
      selectors.inOrder.map fun selector => (start + first * lookup.interval, selector) :=
  (plan_succ lookup selectors start first 0).trans (List.append_nil _)

/-- Before the last round there is time for another one. -/
theorem round_fits {number interval : Nat} (more : number + 1 ≤ timeout / interval) :
    number * interval + interval ≤ timeout := by
  have fits := Nat.mul_le_mul_right interval more
  rw [Nat.succ_mul] at fits
  exact Nat.le_trans fits (Nat.div_mul_le_self timeout interval)

/-- The rounds that are left are made as planned. No time limit ends them early: it leaves room for
all the rounds it was divided into. -/
theorem rounds_search (answering : Answering start answers rule) {number left : Nat}
    {result : Except LookupError Element} (span : number + left = timeout / lookup.interval)
    (slept : past.slept = number * lookup.interval)
    (run : Transcript (lookup.rounds session selectors start timeout left) log result)
    (follows : Follows rule past log) :
    ∃ made verdict,
      Search lookup answers (past.calls start).length
        (lookup.plan selectors start number (left + 1)) made verdict ∧
      log.calls (start + past.slept) = made.map (lookup.planned session) ∧
      past.slept + log.slept ≤ timeout / lookup.interval * lookup.interval ∧
      match verdict with
      | some decision => result = concluded decision
      | none => past.slept + log.slept = timeout / lookup.interval * lookup.interval ∧
          result = .error (.notFound selectors.shown
            (timeout / lookup.interval * lookup.interval)) := by
  induction left generalizing number past log with
  | zero =>
    obtain rfl : number = timeout / lookup.interval := span
    obtain ⟨made, verdict, opening, rest, rfl, search, calls, still, ending⟩ :=
      roundOr_searches answering run follows
    rw [slept] at search calls ending ⊢
    rw [← plan_one] at search
    cases verdict with
    | some decision =>
      obtain ⟨rfl, rfl⟩ := ending
      rw [List.append_nil, still]
      exact ⟨made, some decision, search, calls, Nat.le_refl _, rfl⟩
    | none =>
      obtain ⟨rfl, rfl⟩ := Transcript.pure_iff.mp ending.1
      rw [List.append_nil, still, Nat.add_sub_cancel_left]
      exact ⟨made, none, search, calls, Nat.le_refl _, rfl, rfl⟩
  | succ left induction =>
    have rounds : number + 1 + left = timeout / lookup.interval := by omega
    obtain ⟨made, verdict, opening, rest, rfl, search, calls, still, ending⟩ :=
      roundOr_searches answering run follows
    rw [slept] at search calls ending ⊢
    cases verdict with
    | some decision =>
      obtain ⟨rfl, rfl⟩ := ending
      have within : number * lookup.interval ≤ timeout / lookup.interval * lookup.interval :=
        Nat.mul_le_mul_right _ (by omega)
      rw [plan_succ, List.append_nil, still]
      exact ⟨made, some decision, search.stops _, calls, within, rfl⟩
    | none =>
      obtain ⟨onward, follows⟩ := ending
      have fits : number * lookup.interval + lookup.interval ≤ timeout := round_fits (by omega)
      have room : ¬ start + timeout < start + number * lookup.interval + lookup.interval := by omega
      rw [if_neg room] at onward
      obtain ⟨awake, _, later, asked, finish, rfl⟩ := Transcript.bind_iff.mp onward
      obtain rfl := Transcript.request_iff.mp asked
      obtain ⟨-, follows⟩ := follows
      have time : (past ++ opening ++ [⟨.sleep lookup.interval, awake⟩] : Log).slept =
          (number + 1) * lookup.interval := by
        rw [Log.slept_paused, still, slept, Nat.add_zero, Nat.succ_mul]
      have count : ((past ++ opening ++ [⟨.sleep lookup.interval, awake⟩] : Log).calls
          start).length = (past.calls start).length + made.length := by
        rw [Log.calls_paused, slept, calls, List.length_append, List.length_map]
      obtain ⟨others, verdict, remaining, further, within, ending⟩ :=
        induction rounds time finish follows
      rw [count, search.exhausts.1] at remaining
      rw [time] at further within ending
      have total : number * lookup.interval +
          (opening ++ ⟨.sleep lookup.interval, awake⟩ :: later : Log).slept =
            (number + 1) * lookup.interval + Log.slept later := by
        rw [Log.slept_append, still, Nat.succ_mul, Nat.zero_add]
        exact (Nat.add_assoc _ _ _).symm
      refine ⟨made ++ others, verdict, ?_, ?_, total ▸ within, total ▸ ending⟩
      · rw [plan_succ]
        exact search.append remaining
      · rw [Log.calls_append, List.map_append, calls, still, ← further, Nat.succ_mul,
          ← Nat.add_assoc]
        rfl

/-! ## The whole search -/

/-- A search went as planned: up to the first lookup that decides, or through all rounds. -/
inductive AsPlanned (lookup : Lookup) (session : String) (selectors : Selectors)
    (start timeout : Nat) (answers : Nat → Except PageError Json) (log : Log) :
    Except LookupError Element → Prop
  | decided {place : Nat} {verdict : Except PageError Element}
      (decides : Decides lookup answers
        (lookup.plan selectors start 0 (timeout / lookup.interval + 1)) place verdict)
      (calls : log.calls start =
        ((lookup.plan selectors start 0 (timeout / lookup.interval + 1)).take (place + 1)).map
          (lookup.planned session))
      (within : log.slept ≤ timeout) :
      AsPlanned lookup session selectors start timeout answers log (concluded verdict)
  | missed
      (exhausts : Exhausts lookup answers
        (lookup.plan selectors start 0 (timeout / lookup.interval + 1)))
      (calls : log.calls start =
        (lookup.plan selectors start 0 (timeout / lookup.interval + 1)).map
          (lookup.planned session))
      (waited : log.slept = timeout / lookup.interval * lookup.interval)
      (within : log.slept ≤ timeout) :
      AsPlanned lookup session selectors start timeout answers log
        (.error (.notFound selectors.shown (timeout / lookup.interval * lookup.interval)))

/-- What a single round says about the search that begins with it. -/
def Foretells (lookup : Lookup) (selectors : Selectors) (start : Nat)
    (answers : Nat → Except PageError Json) (result : Except LookupError Element) :
    Except PageError (Option Element) → Prop
  | .ok (some element) => result = .ok element
  | .error error => result = .error (.page error)
  | .ok none => Exhausts lookup answers (lookup.plan selectors start 0 1)

theorem find_searches (answering : Answering start answers rule)
    {result : Except LookupError Element}
    (run : Transcript (lookup.find session selectors timeout) log result)
    (follows : Follows rule [] log) :
    ∃ made verdict,
      Search lookup answers 0 (lookup.plan selectors start 0 (timeout / lookup.interval + 1)) made
        verdict ∧
      log.calls start = made.map (lookup.planned session) ∧
      log.slept ≤ timeout / lookup.interval * lookup.interval ∧
      match verdict with
      | some decision => result = concluded decision
      | none => log.slept = timeout / lookup.interval * lookup.interval ∧
          result = .error (.notFound selectors.shown
            (timeout / lookup.interval * lookup.interval)) := by
  obtain ⟨started, opening, rest, clock, onward, rfl⟩ := Transcript.bind_iff.mp run
  obtain rfl := Transcript.request_iff.mp clock
  obtain ⟨told, follows⟩ := follows
  obtain rfl : started = start := told.trans (answering.now [])
  have rounds : 0 + timeout / lookup.interval = timeout / lookup.interval := Nat.zero_add _
  have rested : Log.slept [⟨.now, started⟩] = 0 * lookup.interval := (Nat.zero_mul _).symm
  obtain ⟨made, verdict, search, calls, within, ending⟩ :=
    rounds_search answering rounds rested onward follows
  rw [rested, Nat.zero_mul, Nat.zero_add] at within ending
  exact ⟨made, verdict, search, calls, within, ending⟩

/-- A single round makes the lookups of the first round of a search. -/
theorem round_begins (answering : Answering start answers rule)
    {result : Except PageError (Option Element)}
    (run : Transcript (lookup.round session selectors.inOrder) log result)
    (follows : Follows rule [] log) :
    ∃ made verdict,
      Search lookup answers 0 (lookup.plan selectors start 0 1) made verdict ∧
      log.calls start = made.map (lookup.planned session) ∧
      log.slept = 0 ∧ result = reported verdict := by
  rw [plan_one, Nat.zero_mul]
  exact round_searches answering run follows

/-- A page on which nothing is ever found. -/
def emptyPage (past : Log) : (request : Request) → request.Answer
  | .page _ _ => .ok (.obj [("found", .bool false)])
  | .now => past.slept
  | .sleep _ | .progress _ | .acquire _ | .release _ => ()
  | .isCancelled => false
  | .recover _ => none
  | .attach _ => .error .connectionClosed
  | .detach _ => .ok ()

end Lookup

end BrowserScript

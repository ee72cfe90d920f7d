import BrowserScript.Proofs.Run.Parting
import BrowserScript.Proofs.Session.Chronicle
import BrowserScript.Proofs.Session.Company
import BrowserScript.Proofs.Session.Lodging

/-!
# A run among others

One run over a manager, from before it asks for its lease until after it has given that back. Others
do meanwhile what they like, except that they neither touch what belongs to the run nor want a
session of its target. Main definitions: `Session.Visit`, `Visit.Takes`, `Visit.Step`,
`Visit.Talks`, `Visit.Stands`. Main results: `Visit.Talks.step`, `Visit.Stands.step`,
`Visit.Takes.given`.
-/

set_option autoImplicit false

namespace BrowserScript.Session

open Manager
open Run (Leg Request)

/-! ## Visits -/

/-- When a run has lined up for its lease. -/
structure Arrival where
  lease : OperationId
  point : Point

/-- A run with its surroundings. -/
structure Visit where
  point : Point
  arrival : Option Arrival
  activity : Activity
  /-- What the run has asked, with the answers. -/
  exchanged : Run.Log

/-- What a run does next when it is told this of the operation for its request, and what has been
exchanged with that. -/
inductive Activity.Hears (id : OperationId) (request : Request)
    (next : request.Answer → RunProgram RunResult) (wait : Wait) : Activity → Run.Log → Prop
  | ends {outcome : Outcome} {answer : request.Answer} (last : wait = .over outcome)
      (answers : Activity.Answers request outcome answer) :
      Hears id request next wait (.goes (next answer)) [⟨request, answer⟩]
  | more (more : wait.isOver = false) : Hears id request next wait (.waits id request next) []

namespace Visit

/-- A run is about to begin. -/
def begun (settings : Settings) (program : Script) (overrides : Variables) (options : RunOptions)
    (start : Point) : Visit :=
  ⟨start, none, .goes (Run.script settings program overrides options), []⟩

/-- How far the run has come with its session. -/
def leg (v : Visit) : Leg := Leg.outside.along v.exchanged

/-- The moment when the run has lined up for its lease, or the present one if it has not done so
yet. -/
def lined (v : Visit) : Point := (v.arrival.map Arrival.point).getD v.point

/-- The operation is that of the lease of the run, or the run waits for it. -/
def Owns (v : Visit) (id : OperationId) : Prop :=
  (∃ arrival, v.arrival = some arrival ∧ arrival.lease = id) ∨
    ∃ request next, v.activity = .waits id request next

/-- What others may do while a run is on the target. -/
structure Foreign (v : Visit) (target : String) (move : Move) : Prop where
  apart : ∀ id, move.subject? = some id → ¬ v.Owns id
  unwanted : move ≠ .ensure target
  /-- Nobody gives up a reattachment. -/
  patient : ∀ id i stage, move = .abandon id →
    v.point.manager.operation? id ≠ some (.reattach i stage)

/-- A move is made by others or by the run, which then goes on as given. If the surroundings are
orderly, others recover only from sessions that have been seen to fail. -/
inductive Takes (orderly : Prop) (target : String) (v : Visit) :
    Move → Option Arrival → Activity → Run.Log → Prop
  | others {move : Move} (foreign : v.Foreign target move)
      (lost : orderly → ∀ stale, move = .recover stale →
        .failed stale.sessionId ∈ since stale.sessionId v.point.log) :
      Takes orderly target v move v.arrival v.activity []
  | acquires {wanted : String} {next : Request.Answer (.acquire wanted) → RunProgram RunResult}
      {activity : Activity} {news : Run.Log}
      (asks : v.activity = .goes (.ask (.acquire wanted) next))
      (hears : Activity.Hears (v.point.manager.acquire wanted).2.1 (.acquire wanted) next
        (v.point.manager.acquire wanted).2.2 activity news) :
      Takes orderly target v (.acquire wanted)
        (some ⟨(v.point.manager.acquire wanted).2.1, v.point.after (.acquire wanted)⟩) activity news
  | begins {request : Request} {next : request.Answer → RunProgram RunResult} {move : Move}
      {id : OperationId} {wait : Wait} {activity : Activity} {news : Run.Log}
      (asks : v.activity = .goes (.ask request next)) (begins : request.move? = some move)
      (told : (v.point.manager.move v.point.now move).2 = some (id, wait))
      (hears : Activity.Hears id request next wait activity news) :
      Takes orderly target v move v.arrival activity news
  | proceeds {id : OperationId} {request : Request}
      {next : request.Answer → RunProgram RunResult} {input : Input} {activity : Activity}
      {news : Run.Log} (waits : v.activity = .waits id request next)
      (hears : Activity.Hears id request next
        (v.point.manager.resume v.point.now id input).2 activity news) :
      Takes orderly target v (.resume id input) v.arrival activity news
  | releases {freed : String} {next : Request.Answer (.release freed) → RunProgram RunResult}
      {arrival : Arrival} (asks : v.activity = .goes (.ask (.release freed) next))
      (here : v.arrival = some arrival) (answer : Request.Answer (.release freed)) :
      Takes orderly target v (.release arrival.lease) v.arrival (.goes (next answer))
        [⟨.release freed, answer⟩]

/-- What can happen next. If the surroundings are orderly, the browser does not use the name of a
session again. -/
inductive Step (orderly : Prop) (target : String) (v : Visit) : Visit → Prop
  | wait (time : Nat) :
      Step orderly target v { v with point := { v.point with now := v.point.now + time } }
  /-- A call of somebody else on a session fails because the session is gone. -/
  | fails (session : String) :
      Step orderly target v
        { v with point := { v.point with log := .failed session :: v.point.log } }
  | answered (request : Request) {next : request.Answer → RunProgram RunResult}
      (asks : v.activity = .goes (.ask request next)) (free : request.isFree = true)
      (answer : request.Answer) :
      Step orderly target v
        ⟨v.point, v.arrival, .goes (next answer), v.exchanged ++ [⟨request, answer⟩]⟩
  -- The call may have been made before. Nothing depends on when it is made.
  | pages {session : String} {call : PageCall}
      {next : Request.Answer (.page session call) → RunProgram RunResult}
      (asks : v.activity = .goes (.ask (.page session call) next))
      (answer : Request.Answer (.page session call)) :
      Step orderly target v
        ⟨{ v.point with
            log := (if Run.isGone answer then [.failed session] else []) ++ v.point.log },
          v.arrival, .goes (next answer), v.exchanged ++ [⟨.page session call, answer⟩]⟩
  | moves (move : Move) {arrival : Option Arrival} {activity : Activity} {news : Run.Log}
      (takes : v.Takes orderly target move arrival activity news)
      (allowed : v.point.manager.Allows move)
      (fresh : orderly → ∀ id session, move = .resume id (.attached (.ok session)) →
        v.point.log.any (Report.obtains session) = false) :
      Step orderly target v ⟨v.point.after move, arrival, activity, v.exchanged ++ news⟩

end Visit

/-- Everything that can come of a run with its surroundings. -/
def Visits (orderly : Prop) (target : String) : Visit → Visit → Prop :=
  Relation.ReflTransGen (Visit.Step orderly target)

variable {settings : Settings} {orderly : Prop} {target : String} {detach : Bool} {v after : Visit}
  {id : OperationId} {request : Request} {next : request.Answer → RunProgram RunResult}
  {wait : Wait} {move : Move} {point : Point} {arrival : Option Arrival} {activity : Activity}
  {news : Run.Log} {handle : SessionHandle}

namespace Visit

/-! ## What the run says -/

/-- The run is about to make the request or waits for what comes of it. -/
def Asks (v : Visit) (request : Request) (next : request.Answer → RunProgram RunResult) : Prop :=
  v.activity = .goes (.ask request next) ∨ ∃ id, v.activity = .waits id request next

/-- The run keeps to its way, whatever it is answered from here on. -/
structure Talks (target : String) (detach : Bool) (v : Visit) : Prop where
  goes : ∀ rest, v.activity = .goes rest →
    Run.Travels target detach (fun leg _ => leg.isHome = true) rest v.leg
  waits : ∀ id request next, v.activity = .waits id request next →
    Run.Travels target detach (fun leg _ => leg.isHome = true) (.ask request next) v.leg
  fits : v.leg.Fits detach v.exchanged

namespace Talks

theorem begun (settings : Settings) (program : Script) (overrides : Variables)
    (options : RunOptions) (start : Point) :
    Talks options.target options.detach (Visit.begun settings program overrides options start) where
  goes rest same := by
    cases same
    exact Run.script_travels settings program overrides options
  waits _ _ _ same := by cases same
  fits := rfl

theorem asked (talks : Talks target detach v) (asks : v.Asks request next) :
    Run.Travels target detach (fun leg _ => leg.isHome = true) (.ask request next) v.leg := by
  rcases asks with goes | ⟨id, waits⟩
  · exact talks.goes _ goes
  · exact talks.waits id request next waits

theorem may (talks : Talks target detach v) (asks : v.Asks request next) :
    v.leg.may target detach request = true := (talks.asked asks).1

theorem answered (talks : Talks target detach v) (asks : v.Asks request next)
    (answer : request.Answer) : Talks target detach
      ⟨point, arrival, .goes (next answer), v.exchanged ++ [⟨request, answer⟩]⟩ := by
  obtain ⟨may, further⟩ := talks.asked asks
  have leg : Leg.outside.along (v.exchanged ++ [⟨request, answer⟩]) =
      v.leg.next request answer := Leg.along_append _ _ _
  refine ⟨fun rest same => ?_, nofun, ?_⟩
  · cases same
    rw [Visit.leg, leg]
    exact further answer
  · rw [Visit.leg, leg]
    exact talks.fits.next may answer

theorem heard (talks : Talks target detach v) (asks : v.Asks request next)
    (hears : Activity.Hears id request next wait activity news) :
    Talks target detach ⟨point, arrival, activity, v.exchanged ++ news⟩ := by
  cases hears with
  | ends => exact talks.answered asks _
  | more =>
    rw [List.append_nil]
    refine ⟨nofun, fun _ _ _ same => ?_, talks.fits⟩
    cases same
    exact talks.asked asks

theorem step (talks : Talks target detach v) (step : v.Step orderly target after) :
    Talks target detach after := by
  cases step with
  | wait | fails => exact ⟨talks.goes, talks.waits, talks.fits⟩
  | answered request asks free answer => exact talks.answered (.inl asks) answer
  | pages asks answer => exact talks.answered (.inl asks) answer
  | moves move takes =>
    cases takes with
    | others =>
      rw [List.append_nil]
      exact ⟨talks.goes, talks.waits, talks.fits⟩
    | acquires asks hears => exact talks.heard (.inl asks) hears
    | begins asks _ _ hears => exact talks.heard (.inl asks) hears
    | proceeds waits hears => exact talks.heard (.inr ⟨_, waits⟩) hears
    | releases asks _ answer => exact talks.answered (.inl asks) answer

end Talks

end Visit

/-! ## Operations for the run -/

/-- The operation is one for the request, as long as it is not over. -/
def Manager.Pursues (m : Manager) (id : OperationId) : Request → Prop
  | .recover stale => m.Seeks id stale
  | .detach target => m.Clears id target
  | .attach _ | .acquire _ => True
  | _ => False

theorem Manager.Pursues.managed {m : Manager} (pursues : m.Pursues id request) :
    request.isManaged = true := by
  cases request <;> first | rfl | cases pursues

theorem Manager.Pursues.moved {m : Manager} (now : Nat) (pursues : m.Pursues id request)
    (sound : Sound m) (allowed : m.Allows move) : (m.move now move).1.Pursues id request := by
  cases request with
  | recover stale =>
    obtain ⟨_, effect, _⟩ := move_effect now sound allowed
    obtain ⟨_, done⟩ := effect.acts.deeds
    exact done.seeks sound pursues
  | detach target => exact Manager.Clears.moved now pursues sound allowed
  | _ => exact pursues

theorem managed_of_begins (begins : request.move? = some move) : request.isManaged = true := by
  cases request <;> first | rfl | cases begins

theorem begun_pursues {m : Manager} {now : Nat} (sound : Sound m)
    (begins : request.move? = some move) (told : (m.move now move).2 = some (id, wait)) :
    (m.move now move).1.Pursues id request := by
  cases request with
  | recover stale =>
    cases begins
    have same : (m.recover now stale).2 = (id, wait) := Option.some.inj told
    have seeks := recover_seeks sound now stale
    rwa [same] at seeks
  | detach target =>
    cases begins
    have same : (m.detach now target).2 = (id, wait) := Option.some.inj told
    have clears := detach_clears sound now target
    rwa [same] at clears
  | attach => trivial
  | page | now | sleep | isCancelled | progress | acquire | release => cases begins

/-- A run is given a handle when it has attached or recovered. -/
theorem Activity.Hears.given (hears : Activity.Hears id request next wait activity news)
    (member : handle ∈ news.filterMap Run.given?) :
    (∃ target, request = .attach target) ∧ wait = .over (.attached (.ok handle)) ∨
      (∃ stale, request = .recover stale) ∧ wait = .over (.recovered (some handle)) := by
  cases hears with
  | ends last answers =>
    cases answers with
    | acquired | detached => cases member
    | attached target result =>
      cases result with
      | error => cases member
      | ok other =>
        obtain rfl := List.mem_singleton.mp member
        exact .inl ⟨⟨target, rfl⟩, last⟩
    | recovered stale result =>
      cases result with
      | none => cases member
      | some other =>
        obtain rfl := List.mem_singleton.mp member
        exact .inr ⟨⟨stale, rfl⟩, last⟩
  | more => cases member

/-- While an operation for a session is there, the run waits for it. -/
theorem waits_of_ended {m : Manager} {operation : Operation}
    {next : Except PageError SessionHandle → RunProgram RunResult}
    (hears : Activity.Hears id (.attach target) next wait activity news)
    (ended : Ended id (m, wait)) (here : m.operation? id = some operation) :
    activity = .waits id (.attach target) next := by
  cases hears with
  | ends last answers =>
    cases answers
    have gone : m.operation? id = none := ended _ last nofun
    cases gone.symm.trans here
  | more => rfl

namespace Visit

/-- What holds of the manager while a run is on the target: nobody else wants a session of the
target, and the sessions that the run has attached to are of one kind. -/
structure Stands (settings : Settings) (target : String) (v : Visit) : Prop where
  reaches : Reaches settings v.point.now v.point.manager
  wanted : ∀ id i stage, v.point.manager.operation? id = some (.ensure i stage) →
    (v.point.manager.slot i).target = target → ∃ next, v.activity = .waits id (.attach target) next
  pursues : ∀ id request next, v.activity = .waits id request next →
    v.point.manager.Pursues id request
  kept : ∀ handle ∈ Run.attachments v.exchanged, handle.keepAlive = settings.keepAlive

/-- A handle that the run is given has just been published. -/
theorem Takes.given (takes : v.Takes orderly target move arrival activity news)
    (stands : Stands settings target v) (allowed : v.point.manager.Allows move)
    (member : handle ∈ news.filterMap Run.given?) :
    ∃ i, ((v.point.after move).manager.slot i).state = .attached handle := by
  have sound := stands.reaches.sound
  cases takes with
  | others | releases => cases member
  | acquires _ hears =>
    rcases hears.given member with ⟨⟨_, same⟩, _⟩ | ⟨⟨_, same⟩, _⟩
    · cases same
    · cases same
  | begins _ begins told hears =>
    rcases hears.given member with ⟨_, last⟩ | ⟨⟨stale, rfl⟩, last⟩
    · exact attached_published sound allowed (last ▸ told)
    · cases begins
      exact recover_published (last ▸ Option.some.inj told)
  | proceeds waits hears =>
    rcases hears.given member with ⟨_, last⟩ | ⟨⟨stale, rfl⟩, last⟩
    · exact attached_published sound allowed (congrArg (fun wait => some (_, wait)) last)
    · exact resume_published (stands.pursues _ _ _ waits) allowed last

theorem given_of_attached (member : handle ∈ Run.attachments news) :
    handle ∈ news.filterMap Run.given? := by
  obtain ⟨⟨request, answer⟩, here, attached⟩ := List.mem_filterMap.mp member
  refine List.mem_filterMap.mpr ⟨_, here, ?_⟩
  cases request with
  | attach target =>
    cases answer with
    | ok other => exact attached
    | error => cases attached
  | _ => cases attached

namespace Stands

variable {i : SlotId} {stage : Stage}

theorem begun {start : Point} (program : Script) (overrides : Variables) (options : RunOptions)
    (reaches : Reaches settings start.now start.manager)
    (unwanted : start.manager.Unwanted options.target) :
    Stands settings options.target (Visit.begun settings program overrides options start) where
  reaches := reaches
  wanted id i stage here home := absurd home (unwanted id i stage here)
  pursues := nofun
  kept := nofun

/-- A run that does not wait for a session is alone in not wanting one. -/
theorem unwanted (stands : Stands settings target v)
    (other : ∀ id next, v.activity ≠ .waits id (.attach target) next) :
    v.point.manager.Unwanted target := by
  intro id i stage here home
  obtain ⟨next, waits⟩ := stands.wanted id i stage here home
  exact other id next waits

/-- Who wants a session of the target after a move is the run. -/
theorem wanted_after (stands : Stands settings target v)
    (takes : v.Takes orderly target move arrival activity news)
    (allowed : v.point.manager.Allows move)
    (here : (v.point.after move).manager.operation? id = some (.ensure i stage))
    (home : ((v.point.after move).manager.slot i).target = target) :
    ∃ next, activity = .waits id (.attach target) next := by
  have sound := stands.reaches.sound
  have before : move ≠ .ensure target → ∃ next, v.activity = .waits id (.attach target) next := by
    intro other
    obtain ⟨stageBefore, there, same⟩ := ensure_before v.point.now sound allowed here
      (home.symm ▸ other)
    exact stands.wanted id i stageBefore there (same.trans home)
  cases takes with
  | others foreign => exact before foreign.unwanted
  | acquires asks =>
    obtain ⟨next, waits⟩ := before nofun
    cases asks.symm.trans waits
  | @begins request next _ _ _ _ _ asks begins told hears =>
    have idle : move = .ensure target := by
      by_contra other
      obtain ⟨next, waits⟩ := before other
      cases asks.symm.trans waits
    subst idle
    cases request with
    | attach other =>
      cases begins
      have free : v.point.manager.nextOperation ≤ id := by
        by_contra old
        obtain ⟨_, there, same⟩ := move_aim sound allowed (Nat.lt_of_not_le old) here
        obtain ⟨earlier, rfl⟩ := Operation.aim_eq_ensure.mp same
        obtain ⟨_, unmoved, _⟩ :=
          move_keepsSlots v.point.now sound allowed (sound.crew.placed id _ there)
        obtain ⟨next, waits⟩ := stands.wanted id i earlier there (unmoved.symm.trans home)
        cases asks.symm.trans waits
      have same : (v.point.manager.ensure v.point.now target).2 = _ := Option.some.inj told
      have ended := Ended.ensure sound v.point.now target
      have number := ensure_begun sound free here
      rw [same] at ended number
      subst number
      exact ⟨next, waits_of_ended hears ended here⟩
    | _ => cases begins
  | proceeds waits hears =>
    obtain ⟨next, waitsToo⟩ := before nofun
    cases waits.symm.trans waitsToo
    exact ⟨next, waits_of_ended hears (Ended.resume v.point.manager v.point.now id _) here⟩
  | releases asks =>
    obtain ⟨next, waits⟩ := before nofun
    cases asks.symm.trans waits

theorem pursues_after (stands : Stands settings target v)
    (takes : v.Takes orderly target move arrival activity news)
    (allowed : v.point.manager.Allows move) (waits : activity = .waits id request next) :
    (v.point.after move).manager.Pursues id request := by
  have sound := stands.reaches.sound
  cases takes with
  | others => exact (stands.pursues id request next waits).moved v.point.now sound allowed
  | acquires _ hears =>
    cases hears with
    | ends => cases waits
    | more =>
      cases waits
      trivial
  | begins _ begins told hears =>
    cases hears with
    | ends => cases waits
    | more =>
      cases waits
      exact begun_pursues sound begins told
  | proceeds before hears =>
    cases hears with
    | ends => cases waits
    | more =>
      cases waits
      exact (stands.pursues id request next before).moved v.point.now sound allowed
  | releases => cases waits

theorem step (stands : Stands settings target v) (step : v.Step orderly target after) :
    Stands settings target after := by
  have attachments_append : ∀ early late : Run.Log, Run.attachments (early ++ late) =
      Run.attachments early ++ Run.attachments late := fun _ _ => List.filterMap_append
  have idle : ∀ rest, v.activity = .goes rest → v.point.manager.Unwanted target :=
    fun rest goes => stands.unwanted fun id next waits => by cases goes.symm.trans waits
  cases step with
  | wait time => exact ⟨.wait time stands.reaches, stands.wanted, stands.pursues, stands.kept⟩
  | fails => exact ⟨stands.reaches, stands.wanted, stands.pursues, stands.kept⟩
  | answered request asks free answer =>
    refine ⟨stands.reaches, fun id i stage here home => ?_, nofun, fun handle member => ?_⟩
    · exact absurd home (idle _ asks id i stage here)
    · have silent : Run.attachments [⟨request, answer⟩] = [] := by
        cases request <;> first | rfl | cases free
      rw [attachments_append, silent, List.append_nil] at member
      exact stands.kept handle member
  | pages asks answer =>
    refine ⟨stands.reaches, fun id i stage here home => ?_, nofun, fun handle member => ?_⟩
    · exact absurd home (idle _ asks id i stage here)
    · rw [attachments_append] at member
      exact stands.kept handle ((List.mem_append.mp member).resolve_right nofun)
  | moves move takes allowed =>
    have reaches := stands.reaches.move _ allowed
    refine ⟨reaches, fun id i stage here home => ?_, fun id request next waits => ?_,
      fun handle member => ?_⟩
    · exact stands.wanted_after takes allowed here home
    · exact stands.pursues_after takes allowed waits
    · rw [attachments_append] at member
      rcases List.mem_append.mp member with old | new
      · exact stands.kept handle old
      · obtain ⟨i, attached⟩ := takes.given stands allowed (given_of_attached new)
        exact reaches.keepsAlive.handles i handle attached

end Stands

end Visit

end BrowserScript.Session

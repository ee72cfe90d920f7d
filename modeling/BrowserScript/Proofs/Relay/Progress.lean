import BrowserScript.Proofs.Relay.Hearing
import BrowserScript.Proofs.Relay.Sorting

/-!
# Progress on its way to a caller

What a port is notified of for a request are the first of the progress events that handling the
request has reported, in their order. Once a send has returned the report of a run they are all of
them, as many as the report counts, and no more come. Main definitions: `Service.received`,
`Service.reported`, `Service.Informed`. Main result: `Service.Reaches.informed`.
-/

set_option autoImplicit false

namespace BrowserScript.Relay

open Program

/-! ## Progress among messages -/

/-- The progress among some messages of a port, in order. -/
def eventsOf (messages : List PortMessage) : List ProgressEvent :=
  messages.filterMap fun
    | .progress _ event => some event
    | .response _ _ => none

/-- The notes for one request are the progress that is brought to it. -/
theorem notes_for_request (request : RequestId) (messages : List PortMessage) :
    ((notesOf messages).filter fun note => note.request == request).map Notification.event =
      eventsOf (messages.filter fun message => message.brings request) := by
  induction messages with
  | nil => rfl
  | cons message rest induction =>
    cases message with
    | response target result =>
      have skipped : notesOf (.response target result :: rest) = notesOf rest := rfl
      rw [skipped, induction, List.filter_cons]
      split <;> rfl
    | progress target event =>
      have first : notesOf (.progress target event :: rest) = ⟨target, event⟩ :: notesOf rest := rfl
      have brings : (PortMessage.progress target event).brings request = (target == request) := rfl
      rw [first, List.filter_cons, List.filter_cons, brings]
      dsimp only
      split
      · exact congrArg (event :: ·) induction
      · exact induction

namespace Handler

variable {handler : Handler}

theorem events_said (handler : Handler) (request : RequestId) :
    eventsOf (handler.said.map (LinkMessage.addressed request)) = handler.forwarded := by
  have progress : ∀ events : List ProgressEvent,
      eventsOf ((events.map (LinkMessage.progress handler.relayId)).map
        (LinkMessage.addressed request)) = events := by
    intro events
    induction events with
    | nil => rfl
    | cons event rest induction => exact congrArg (event :: ·) induction
  unfold said
  rw [List.map_append, eventsOf, List.filterMap_append]
  change eventsOf _ ++ eventsOf _ = _
  rw [progress]
  cases handler.reply <;> exact List.append_nil _

/-- A reply is the last thing that is said, so who has got it has got everything. -/
theorem whole_of_reply {request : RequestId} {reply : Reply} {messages : List PortMessage}
    (first : messages <+: handler.said.map (LinkMessage.addressed request))
    (member : .response request (.ok reply) ∈ messages) :
    handler.reply = some reply ∧
      messages = handler.said.map (LinkMessage.addressed request) := by
  have notProgress : .response request (.ok reply) ∉
      (handler.forwarded.map (LinkMessage.progress handler.relayId)).map
        (LinkMessage.addressed request) := by
    simp [LinkMessage.addressed]
  unfold said at first ⊢
  cases hasReplied : handler.reply with
  | none =>
    rw [hasReplied, Option.toList_none, List.map_nil, List.append_nil] at first
    exact absurd (first.subset member) notProgress
  | some last =>
    rw [hasReplied, Option.toList_some, List.map_singleton, List.map_append,
      List.map_singleton] at first
    rcases List.prefix_concat_iff.mp first with whole | before
    · rw [whole] at member
      rcases List.mem_append.mp member with early | isLast
      · exact absurd early notProgress
      · cases List.mem_singleton.mp isLast
        exact ⟨rfl, by rw [whole]; simp⟩
    · exact absurd (before.subset member) notProgress

end Handler

theorem Orchestrator.withDefaults_of_prepare {o : Orchestrator} {command prepared : Command}
    (ready : o.prepare command = .ok prepared) :
    prepared = Orchestrator.withDefaults o.config.defaults command := by
  unfold Orchestrator.prepare at ready
  dsimp only at ready
  split at ready
  · cases ready
  · exact (Except.ok.inj ready).symm

namespace Service

variable {worker : Worker.Config} {config : RelayConfig} {started : Nat} {s after later : Service}

/-- The progress a port has been notified of for one of its requests, in order. -/
def received (s : Service) (key : RequestKey) : List ProgressEvent :=
  ((s.traffic.notified key.1).filter fun note => note.request == key.2).map Notification.event

/-- Who handles a request. -/
def handlersFor (s : Service) (key : RequestKey) : List Handler :=
  s.handlers.filter fun handler => (assignments s.traffic.turns).any fun entry =>
    entry.key == key && entry.relayId == handler.relayId

/-- The progress that handling a request has reported so far, in order. -/
def reported (s : Service) (key : RequestKey) : List ProgressEvent :=
  (s.handlersFor key).flatMap fun handler => Worker.progressEvents handler.log

theorem mem_handlersFor {key : RequestKey} {handler : Handler} :
    handler ∈ s.handlersFor key ↔ handler ∈ s.handlers ∧
      ∃ entry ∈ assignments s.traffic.turns, entry.key = key ∧
        entry.relayId = handler.relayId := by
  simp [handlersFor, List.mem_filter]

/-! ## What a step leaves as it is -/

theorem Step.assignments_subset (step : Step worker config s after) :
    assignments s.traffic.turns ⊆ assignments after.traffic.turns := by
  rcases step.traffic with same | step
  · rw [same]
    exact List.Subset.refl _
  · rcases step.turned with ⟨turns, _⟩ | ⟨input, turns, _⟩
    · rw [turns]
      exact List.Subset.refl _
    · rw [turns, assignments_append]
      exact List.subset_append_left _ _

theorem Step.logged (step : Step worker config s after) {event : Event}
    (member : event ∈ s.traffic.log) : event ∈ after.traffic.log := by
  rcases step.traffic with same | step
  · rw [same]
    exact member
  · exact step.logged member

/-- A handler that has replied stays as it is. -/
theorem Step.replied (step : Step worker config s after) (kept : Kept worker s)
    {handler : Handler} (member : handler ∈ s.handlers) {reply : Reply}
    (hasReplied : handler.reply = some reply) : handler ∈ after.handlers := by
  cases step with
  | relay traffic step quiet => exact member
  | serve link ready served => exact List.mem_append_left _ member
  | handle before after working next said handlers step =>
    rw [handlers, List.mem_append, List.mem_cons] at member
    rw [List.mem_append, List.mem_cons]
    refine member.imp id fun others => others.elim (fun same => ?_) .inr
    have isIn : handler ∈ s.handlers := by
      rw [handlers, same]
      exact List.mem_append_right _ List.mem_cons_self
    subst same
    exact (step.not_of_replied (kept.sound handler isIn) hasReplied).elim

/-- What has been logged stays in the log, and who has replied still has. -/
theorem Follows.keeps (follows : Follows worker config s later)
    (reached : Reaches worker config started s) :
    (∀ event ∈ s.traffic.log, event ∈ later.traffic.log) ∧
      ∀ key, ∀ handler ∈ s.handlersFor key, ∀ reply, handler.reply = some reply →
        handler ∈ later.handlersFor key := by
  induction follows with
  | refl => exact ⟨fun _ member => member, fun _ _ member _ _ => member⟩
  | @step later after follows step induction =>
    obtain ⟨logged, replied⟩ := induction
    refine ⟨fun event member => step.logged (logged event member), ?_⟩
    intro key handler member reply hasReplied
    obtain ⟨isIn, entry, given, same⟩ :=
      mem_handlersFor.mp (replied key handler member reply hasReplied)
    exact mem_handlersFor.mpr ⟨step.replied (reached.follows follows).kept isIn hasReplied, entry,
      step.assignments_subset given, same⟩

/-! ## From the handler to the port -/

section
variable (reached : Reaches worker config started s) {key : RequestKey}
include reached

theorem Reaches.orderly : Orderly (taken s.traffic.turns) :=
  reached.traffic.streamed.spoken.prior.orderly

/-- A request is handled once at most. -/
theorem Reaches.handlersFor_eq {handler : Handler} (member : handler ∈ s.handlersFor key) :
    s.handlersFor key = [handler] := by
  obtain ⟨isIn, entry, given, own, number⟩ := mem_handlersFor.mp member
  have all : ∀ other ∈ s.handlersFor key, other = handler := by
    intro other isOther
    obtain ⟨also, second, isSecond, same, spoken⟩ := mem_handlersFor.mp isOther
    obtain rfl := reached.traffic.run.assigned_once reached.orderly isSecond given
      (same.trans own.symm)
    exact reached.kept.unique reached.traffic also isIn (spoken.symm.trans number)
  have distinct : (s.handlersFor key).Nodup :=
    (reached.kept.distinct reached.traffic).of_map.filter _
  rw [List.eq_replicate_of_mem all] at distinct member ⊢
  have one := List.nodup_replicate.mp distinct
  cases count : (s.handlersFor key).length with
  | zero =>
    rw [count] at member
    cases member
  | succ more =>
    obtain rfl : more = 0 := by omega
    rfl

/-- Nobody handles a request, or one handler alone does. -/
theorem Reaches.handlersFor_cases (key : RequestKey) :
    s.handlersFor key = [] ∨ ∃ handler ∈ s.handlersFor key, s.handlersFor key = [handler] := by
  cases handlers : s.handlersFor key with
  | nil => exact .inl rfl
  | cons handler rest =>
    have member : handler ∈ s.handlersFor key := by
      rw [handlers]
      exact List.mem_cons_self
    exact .inr ⟨handler, handlers ▸ member, handlers ▸ reached.handlersFor_eq member⟩

/-- What a port has sorted for a request are the first of the messages its handler has said. -/
theorem Reaches.sorted_prefix {sorted : List PortMessage} (sorts : s.traffic.Sorts key.1 sorted)
    {handler : Handler} (member : handler ∈ s.handlersFor key) :
    sorted.filter (fun message => message.brings key.2) <+:
      handler.said.map (LinkMessage.addressed key.2) := by
  obtain ⟨isIn, entry, given, rfl, number⟩ := mem_handlersFor.mp member
  obtain ⟨lost, split, _⟩ := sorts.sent
  have early : sorted.filter (fun message => message.brings entry.request) <+:
      passedOn entry.key s.traffic.turns := by
    rw [passedOn, split, List.append_assoc, List.filter_append]
    exact List.prefix_append _ _
  have inOrder := (reached.traffic.run.passes_on_in_order reached.orderly reached.kept.solicited
    given).1
  rw [number] at inOrder
  exact (early.trans inOrder).trans ((reached.kept.heard_prefix isIn).map _)

/-- A port has sorted nothing for a request that nobody handles. -/
theorem Reaches.sorted_nil {sorted : List PortMessage} (sorts : s.traffic.Sorts key.1 sorted)
    (unhandled : s.handlersFor key = []) :
    sorted.filter (fun message => message.brings key.2) = [] := by
  have nothing : passedOn key s.traffic.turns = [] := by
    by_cases given : ∃ entry ∈ assignments s.traffic.turns, entry.key = key
    · obtain ⟨entry, given, rfl⟩ := given
      have silent := reached.kept.unheard fun handler member same =>
        List.not_mem_nil (unhandled ▸ mem_handlersFor.mpr ⟨member, entry, given, rfl, same.symm⟩)
      have inOrder := (reached.traffic.run.passes_on_in_order reached.orderly
        reached.kept.solicited given).1
      rw [silent] at inOrder
      exact List.prefix_nil.mp inOrder
    · exact reached.traffic.run.passedOn_nil fun entry isEntry same => given ⟨entry, isEntry, same⟩
  obtain ⟨lost, split, _⟩ := sorts.sent
  rw [passedOn, split, List.append_assoc, List.filter_append, List.append_eq_nil_iff] at nothing
  exact nothing.1

end

theorem received_eq {key : RequestKey} {sorted : List PortMessage}
    (sorts : s.traffic.Sorts key.1 sorted) :
    s.received key = eventsOf (sorted.filter fun message => message.brings key.2) := by
  rw [received, sorts.notified, notes_for_request]

/-- The handler has replied, and all it has reported has come to the port. -/
structure Completed (s : Service) (key : RequestKey) (reply : Reply) (handler : Handler) :
    Prop where
  alone : s.handlersFor key = [handler]
  replied : handler.reply = some reply
  received : s.received key = Worker.progressEvents handler.log

theorem Completed.member {key : RequestKey} {reply : Reply} {handler : Handler}
    (completed : Completed s key reply handler) : handler ∈ s.handlersFor key := by
  rw [completed.alone]
  exact List.mem_singleton.mpr rfl

/-- When a send has returned a reply, everything has come that was reported for it. -/
theorem Reaches.completed (reached : Reaches worker config started s) {port : PortId}
    {request : RequestId} {now : Nat} {reply : Reply}
    (returned : .returned now port request (.ok reply) ∈ s.traffic.log) :
    ∃ handler, Completed s (port, request) reply handler := by
  obtain ⟨sorted, sorts⟩ := reached.traffic.sorts port
  have brought : .response request (.ok reply) ∈
      sorted.filter fun message => message.brings request :=
    List.mem_filter.mpr ⟨sorts.returned now request reply returned, beq_self_eq_true _⟩
  rcases reached.handlersFor_cases (port, request) with unhandled | ⟨handler, member, alone⟩
  · have nothing := reached.sorted_nil sorts unhandled
    rw [nothing] at brought
    cases brought
  · obtain ⟨hasReplied, whole⟩ :=
      Handler.whole_of_reply (reached.sorted_prefix sorts member) brought
    have sound := reached.kept.sound handler (mem_handlersFor.mp member).1
    have passed := sound.reported
    rw [(sound.finished reply hasReplied).2, List.append_nil] at passed
    refine ⟨handler, alone, hasReplied, ?_⟩
    rw [received_eq sorts, whole, handler.events_said, passed]

/-- Whatever comes later, a completed request gets no more. -/
theorem Completed.no_more {key : RequestKey} {reply : Reply} {handler : Handler}
    (completed : Completed s key reply handler) (reached : Reaches worker config started s)
    (follows : Follows worker config s later)
    (again : ∃ other, Completed later key reply other) : later.received key = s.received key := by
  obtain ⟨other, completedLater⟩ := again
  have still := (follows.keeps reached).2 key handler completed.member reply completed.replied
  rw [completedLater.alone] at still
  rw [completedLater.received, completed.received, List.mem_singleton.mp still]

/-- What is known of the progress for a request. -/
structure Informed (worker : Worker.Config) (config : RelayConfig) (s : Service) (port : PortId)
    (request : RequestId) : Prop where
  /-- A request is handled once at most. -/
  single : (s.handlersFor (port, request)).length ≤ 1
  /-- Its handler is on its way through the program of the command that was sent. -/
  caused : ∀ handler ∈ s.handlersFor (port, request),
    (∃ now command, .called now port request command ∈ s.traffic.log ∧
      handler.ready.command = Orchestrator.withDefaults config.defaults command) ∧
    ∀ later reply, Transcript handler.rest later reply →
      Transcript (Worker.handle worker handler.ready.command) (handler.log ++ later) reply
  /-- The port has been notified of the first of the events that were reported, in order. -/
  inOrder : s.received (port, request) <+: s.reported (port, request)
  /-- Once a send has returned the report of a run, the port has been notified of all events of that
  run, and is notified of no more. -/
  complete : ∀ now result, .returned now port request (.ok (.execution result)) ∈ s.traffic.log →
    ∃ handler, s.handlersFor (port, request) = [handler] ∧
      Transcript (Worker.handle worker handler.ready.command) handler.log (.execution result) ∧
      s.received (port, request) = Worker.progressEvents handler.log ∧
      result.stepsExecuted = (s.received (port, request)).length.toUInt64 ∧
      ∀ later, Follows worker config s later →
        later.received (port, request) = s.received (port, request)

/-- Progress reaches the caller in order, complete, and before the report. -/
theorem Reaches.informed (reached : Reaches worker config started s) (port : PortId)
    (request : RequestId) : Informed worker config s port request where
  single := by
    rcases reached.handlersFor_cases (port, request) with unhandled | ⟨handler, _, alone⟩
    · rw [unhandled]
      exact Nat.zero_le 1
    · rw [alone]
      exact Nat.le_refl 1
  caused := by
    intro handler member
    obtain ⟨isIn, entry, given, own, number⟩ := mem_handlersFor.mp member
    refine ⟨?_, (reached.kept.sound handler isIn).follows⟩
    obtain ⟨other, isOther, same, now, command, called, o, rfl, ready⟩ :=
      reached.traffic.errand_called (reached.kept.errand isIn)
    obtain rfl := reached.traffic.run.numbered.unique isOther given (same.trans number.symm)
    obtain ⟨rfl, rfl⟩ := Prod.mk.inj own
    exact ⟨now, command, called, Orchestrator.withDefaults_of_prepare ready⟩
  inOrder := by
    obtain ⟨sorted, sorts⟩ := reached.traffic.sorts port
    have events : s.received (port, request) =
        eventsOf (sorted.filter fun message => message.brings request) := received_eq sorts
    rw [events]
    rcases reached.handlersFor_cases (port, request) with unhandled | ⟨handler, member, alone⟩
    · rw [reached.sorted_nil sorts unhandled]
      exact List.nil_prefix
    · have first : eventsOf _ <+: eventsOf _ := (reached.sorted_prefix sorts member).filterMap _
      rw [handler.events_said] at first
      have sound := reached.kept.sound handler (mem_handlersFor.mp member).1
      -- what has not been passed on yet comes after all that has
      rw [reported, alone, List.flatMap_singleton, ← sound.reported]
      exact first.trans (List.prefix_append _ _)
  complete := by
    intro now result returned
    obtain ⟨handler, completed⟩ := reached.completed returned
    have sound := reached.kept.sound handler (mem_handlersFor.mp completed.member).1
    have run := sound.follows [] (.execution result)
      ((sound.finished _ completed.replied).1 ▸ .done _)
    rw [List.append_nil] at run
    refine ⟨handler, completed.alone, run, completed.received, ?_, fun later follows => ?_⟩
    · rw [completed.received]
      exact (Worker.handled_of_transcript run).tallied
    · exact completed.no_more reached follows ((reached.follows follows).completed
        ((follows.keeps reached).1 _ returned))

/-- An orchestrator that is idle can hear the next message on its link. -/
theorem Reaches.hears (reached : Reaches worker config started s) {link : LinkId}
    {message : LinkMessage} {rest : List LinkMessage}
    (linked : s.traffic.exchange.orchestrator.link = some link)
    (waiting : (s.traffic.exchange.link link).messages = message :: rest)
    (idle : s.traffic.exchange.orchestrator.activity = .idle) :
    Reaches worker config started
      { s with traffic := { s.traffic with
        exchange := s.traffic.exchange.takeIn s.traffic.now (.answer link)
        log := s.traffic.log ++
          [.turn (s.traffic.exchange.turn s.traffic.now (.fromWorker message))] } } :=
  reached.step (.relay _ _
    (.turn _ (.answer link) _ (.answer link _ rest linked waiting) ⟨idle, by rw [linked]; rfl⟩)
    (Traffic.quiet_of_turn (.answer link _ rest linked waiting) rfl))

/-- A script of two steps that do nothing. -/
def twoSteps : Script :=
  ⟨"two", "", none, Variables.empty, [.mk (.steps []) none none none .null,
    .mk (.steps []) none none none .null]⟩

/-- What handling a command comes to that runs them. -/
def twoStepsRun : Worker.Log :=
  [⟨.load "two", .ok twoSteps⟩, ⟨.register "two", (0 : Nat)⟩, ⟨.run .now, (3 : Nat)⟩,
    ⟨.run (.acquire "T1"), ()⟩, ⟨.isCancelled 0, false⟩,
    ⟨.run (.attach "T1"), .ok ⟨"T1", "S1", true, 1⟩⟩, ⟨.isCancelled 0, false⟩,
    ⟨.run (.progress ⟨"two", 0, "0", .nestedSteps⟩), ()⟩, ⟨.isCancelled 0, false⟩,
    ⟨.run (.progress ⟨"two", 1, "1", .nestedSteps⟩), ()⟩, ⟨.run (.release "T1"), ()⟩,
    ⟨.run .now, (7 : Nat)⟩, ⟨.unregister "two" 0, ()⟩]

/-- Both events of a run have come when its report is returned. -/
theorem two_events_before_the_report :
    ∃ s result, Reaches ⟨{}, some "T1", false⟩ ⟨100, 10, 1, 5, Variables.empty⟩ 0 s ∧
      Informed ⟨{}, some "T1", false⟩ ⟨100, 10, 1, 5, Variables.empty⟩ s 1 1 ∧
      .returned 0 1 1 (.ok (.execution result)) ∈ s.traffic.log ∧
      s.received (1, 1) = [⟨"two", 0, "0", .nestedSteps⟩, ⟨"two", 1, "1", .nestedSteps⟩] := by
  have run : Transcript (Worker.handle ⟨{}, some "T1", false⟩
      (.runScript "two" Variables.empty none false)) twoStepsRun
      (.execution (.report "T1" (.ok ()) 2 4)) := by decide +kernel
  have opened := @Reaches.start ⟨{}, some "T1", false⟩ ⟨100, 10, 1, 5, Variables.empty⟩ 0
    |>.step (.relay _ _ (.openPort _) (Traffic.quiet_of_links rfl))
  have announced := opened.step (.relay _ _ (.turn _ .message _ (.message _ [] rfl) rfl)
    (Traffic.quiet_of_turn (.message _ [] rfl) rfl))
  have called := announced.step
    (.relay _ _ (.send _ 1 (.runScript "two" Variables.empty none false) 1 rfl rfl)
      (Traffic.quiet_of_links rfl))
  have asked := called.step (.relay _ _ (.turn _ .message _ (.message _ [] rfl) rfl)
    (Traffic.quiet_of_turn (.message _ [] rfl) rfl))
  have linked := asked.step (.relay _ _ (.link _ .openLink)
    (Traffic.quiet_of_move .openLink (fun _ _ same => by cases same) rfl))
  have forwarded := linked.step (.relay _ _
    (.turn _ (.connected (some 0)) _ (.linked 0 (by decide)) ⟨1, 1, _, rfl⟩)
    (Traffic.quiet_of_turn (.linked 0 (by decide)) rfl))
  have served := forwarded.step (.serve _ 0 ⟨1, .runScript "two" Variables.empty none false⟩ rfl)
  have handled := served.follows (@Follows.handles _ _ _ [] []
    (.start ⟨{}, some "T1", false⟩ 0 ⟨1, .runScript "two" Variables.empty none false⟩) _ _ run)
  have first := handled.step (.handle _ [] [] _ _ _ rfl (.forward _ _ _ rfl))
  have second := first.step (.handle _ [] [] _ _ _ rfl (.forward _ _ _ rfl))
  have replied := second.step (.handle _ [] [] _ _ _ rfl (.reply _ _ rfl rfl rfl))
  have heard := ((replied.hears rfl rfl rfl).hears rfl rfl rfl).hears rfl rfl rfl
  have sorted := ((heard.step (.relay _ _ (.sort _ 1 rfl) (Traffic.quiet_of_links rfl))).step
    (.relay _ _ (.sort _ 1 rfl) (Traffic.quiet_of_links rfl))).step
    (.relay _ _ (.sort _ 1 rfl) (Traffic.quiet_of_links rfl))
  have returned := sorted.step (.relay _ _ (.fetch _ ⟨1, 1, 1110⟩ _ (.head _) rfl)
    (Traffic.quiet_of_links rfl))
  exact ⟨_, _, returned, returned.informed 1 1,
    List.mem_append_right _ (List.mem_singleton.mpr rfl), rfl⟩

end Service

end BrowserScript.Relay

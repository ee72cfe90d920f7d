import BrowserScript.Proofs.Relay.Handling
import BrowserScript.Proofs.Relay.Passing

/-!
# The worker at the far end

The relay together with a worker that serves its links. The worker takes requests from the links and
handles each by itself: the program of its command goes on while what it reports is passed on to the
link, and the reply follows when the program is done and all has been passed on. Main definitions:
`Handler`, `Handler.Step`, `Service`, `Service.Step`. Main results: `Service.Follows.handles`,
`Traffic.Step.changes`, `Traffic.Step.quiet_or_answers`.
-/

set_option autoImplicit false

namespace BrowserScript.Relay

open Program

/-! ## Handlers -/

/-- A request the worker has taken from a link, and how far it has got with it. -/
structure Handler where
  link : LinkId
  ready : LinkRequest
  /-- What has been exchanged with the surroundings. -/
  log : Worker.Log
  /-- What there is still to do. -/
  rest : WorkerProgram Reply
  /-- Progress that has been reported and not been passed on. -/
  queue : List ProgressEvent
  /-- Progress that has been passed on to the link. -/
  forwarded : List ProgressEvent
  /-- The reply, once it has gone out. -/
  reply : Option Reply

namespace Handler

def start (worker : Worker.Config) (link : LinkId) (ready : LinkRequest) : Handler :=
  ⟨link, ready, [], Worker.handle worker ready.command, [], [], none⟩

def relayId (handler : Handler) : RelayId := handler.ready.relayId

/-- What has been put on the link for the request, in order. -/
def said (handler : Handler) : List LinkMessage :=
  handler.forwarded.map (LinkMessage.progress handler.relayId) ++
    handler.reply.toList.map (LinkMessage.response handler.relayId)

/-- What can be done next about the request, and what is put on the link by it. -/
inductive Step : Handler → Option LinkMessage → Handler → Prop
  /-- The surroundings answer the program; what it reports goes to the one who passes it on. -/
  | exchange (handler : Handler) (request : Worker.Request)
      (next : request.Answer → WorkerProgram Reply) (answer : request.Answer) :
      handler.rest = .ask request next →
      Step handler none
        { handler with
          log := handler.log ++ [⟨request, answer⟩]
          rest := next answer
          queue := handler.queue ++ Worker.progressEvents [⟨request, answer⟩] }
  | forward (handler : Handler) (event : ProgressEvent) (queue : List ProgressEvent) :
      handler.queue = event :: queue →
      Step handler (some (.progress handler.relayId event))
        { handler with queue := queue, forwarded := handler.forwarded ++ [event] }
  | reply (handler : Handler) (reply : Reply) :
      handler.rest = .done reply → handler.queue = [] → handler.reply = none →
      Step handler (some (.response handler.relayId reply)) { handler with reply := some reply }

/-- The handler is on its way through the program of its command, has passed on the first of what
it has reported, and is done once it has replied. -/
structure Sound (worker : Worker.Config) (handler : Handler) : Prop where
  follows : ∀ later reply, Transcript handler.rest later reply →
    Transcript (Worker.handle worker handler.ready.command) (handler.log ++ later) reply
  reported : handler.forwarded ++ handler.queue = Worker.progressEvents handler.log
  finished : ∀ reply, handler.reply = some reply → handler.rest = .done reply ∧ handler.queue = []

variable {worker : Worker.Config} {handler next : Handler} {said : Option LinkMessage}

theorem start_sound (worker : Worker.Config) (link : LinkId) (ready : LinkRequest) :
    Sound worker (start worker link ready) where
  follows := fun later reply run => run
  reported := rfl
  finished := fun reply hasReplied => by cases hasReplied

namespace Step

theorem link (step : handler.Step said next) : next.link = handler.link := by
  cases step <;> rfl

theorem ready (step : handler.Step said next) : next.ready = handler.ready := by
  cases step <;> rfl

theorem number (step : handler.Step said next) : next.relayId = handler.relayId :=
  congrArg LinkRequest.relayId step.ready

theorem sound (step : handler.Step said next) (sound : handler.Sound worker) :
    next.Sound worker := by
  cases step with
  | exchange request further answer asks =>
    refine ⟨fun later reply run => ?_, ?_, fun reply hasReplied => ?_⟩
    · have whole := sound.follows (⟨request, answer⟩ :: later) reply (asks ▸ .ask answer run)
      rwa [List.append_cons] at whole
    · dsimp only
      rw [Worker.progressEvents_append, ← sound.reported, List.append_assoc]
    · have done := (sound.finished reply hasReplied).1
      rw [asks] at done
      cases done
  | forward event queue waiting =>
    refine ⟨sound.follows, ?_, fun reply hasReplied => ?_⟩
    · dsimp only
      rw [← sound.reported, waiting, List.append_assoc]
      rfl
    · have none := (sound.finished reply hasReplied).2
      rw [waiting] at none
      cases none
  | reply reply done sorted fresh =>
    refine ⟨sound.follows, sound.reported, fun other hasReplied => ?_⟩
    cases hasReplied
    exact ⟨done, sorted⟩

/-- Whatever is said comes after all that has been said. -/
theorem said_append (step : handler.Step said next) (sound : handler.Sound worker) :
    next.said = handler.said ++ said.toList := by
  cases step with
  | exchange request further answer asks => exact (List.append_nil _).symm
  | forward event queue waiting =>
    have silent : handler.reply = none := by
      cases hasReplied : handler.reply with
      | none => rfl
      | some reply =>
        have none := (sound.finished reply hasReplied).2
        rw [waiting] at none
        cases none
    simp [Handler.said, relayId, silent]
  | reply reply done sorted fresh => simp [Handler.said, relayId, fresh]

theorem said_relayId (step : handler.Step said next) {message : LinkMessage}
    (isSaid : said = some message) : message.relayId = handler.relayId := by
  cases step with
  | exchange request further answer asks => cases isSaid
  | forward event queue waiting =>
    cases isSaid
    rfl
  | reply reply done sorted fresh =>
    cases isSaid
    rfl

/-- After its reply nothing more is done about a request. -/
theorem not_of_replied (step : handler.Step said next) (sound : handler.Sound worker)
    {reply : Reply} (hasReplied : handler.reply = some reply) : False := by
  obtain ⟨done, sorted⟩ := sound.finished reply hasReplied
  cases step with
  | exchange request further answer asks =>
    rw [asks] at done
    cases done
  | forward event queue waiting =>
    rw [waiting] at sorted
    cases sorted
  | reply other ends sorted fresh =>
    rw [hasReplied] at fresh
    cases fresh

end Step

end Handler

/-! ## The service -/

namespace Traffic

/-- Nothing has been said on any link: the messages on it were there before. -/
def Quiet (s after : Traffic) : Prop :=
  ∀ id, (after.exchange.link id).messages <:+: (s.exchange.link id).messages

/-- The worker's end of a link moves. -/
def moved (s : Traffic) (move : Exchange.LinkMove) : Traffic :=
  { s with exchange := s.exchange.moveLink move }

/-- A message may be put on a link. -/
def put (s : Traffic) (link : LinkId) : Option LinkMessage → Traffic
  | some message => s.moved (.answer link message)
  | none => s

end Traffic

/-- The relay together with the worker behind its links. -/
structure Service where
  traffic : Traffic
  handlers : List Handler

namespace Service

def start (config : RelayConfig) (now : Nat) : Service := ⟨.start config now, []⟩

/-- One move of one of the parties. -/
inductive Step (worker : Worker.Config) (config : RelayConfig) : Service → Service → Prop
  /-- Anybody but a handler. Links may be lost, and the requests on them. -/
  | relay (s : Service) (traffic : Traffic) :
      Traffic.Step config s.traffic traffic → s.traffic.Quiet traffic →
      Step worker config s { s with traffic := traffic }
  /-- The worker takes a request to handle it. -/
  | serve (s : Service) (link : LinkId) (ready : LinkRequest) :
      (s.traffic.exchange.takeRequest link).2 = some ready →
      Step worker config s
        ⟨s.traffic.moved (.takeRequest link), s.handlers ++ [.start worker link ready]⟩
  | handle (s : Service) (before after : List Handler) (handler next : Handler)
      (said : Option LinkMessage) :
      s.handlers = before ++ handler :: after → handler.Step said next →
      Step worker config s ⟨s.traffic.put handler.link said, before ++ next :: after⟩

/-- The states a service can get into from one of them. -/
inductive Follows (worker : Worker.Config) (config : RelayConfig) (s : Service) : Service → Prop
  | refl : Follows worker config s s
  | step {later after : Service} :
      Follows worker config s later → Step worker config later after →
      Follows worker config s after

/-- The states a service can get into. -/
inductive Reaches (worker : Worker.Config) (config : RelayConfig) (started : Nat) : Service → Prop
  | start : Reaches worker config started (.start config started)
  | step {s after : Service} :
      Reaches worker config started s → Step worker config s after →
      Reaches worker config started after

theorem Reaches.follows {worker : Worker.Config} {config : RelayConfig} {started : Nat}
    {s later : Service} (reached : Reaches worker config started s)
    (follows : Follows worker config s later) : Reaches worker config started later := by
  induction follows with
  | refl => exact reached
  | step follows step induction => exact .step induction step

theorem Follows.trans {worker : Worker.Config} {config : RelayConfig} {s middle later : Service}
    (first : Follows worker config s middle) (second : Follows worker config middle later) :
    Follows worker config s later := by
  induction second with
  | refl => exact first
  | step follows step induction => exact .step induction step

/-- A handler can go through every transcript of what it has to do. -/
theorem Follows.handles {worker : Worker.Config} {config : RelayConfig} {traffic : Traffic}
    {before after : List Handler} {handler : Handler} {log : Worker.Log} {reply : Reply}
    (run : Transcript handler.rest log reply) :
    Follows worker config ⟨traffic, before ++ handler :: after⟩
      ⟨traffic, before ++
        { handler with
          log := handler.log ++ log
          rest := .done reply
          queue := handler.queue ++ Worker.progressEvents log } :: after⟩ := by
  generalize there : handler.rest = rest at run
  induction run generalizing handler with
  | done reply =>
    have same : { handler with
        log := handler.log ++ []
        rest := .done reply
        queue := handler.queue ++ Worker.progressEvents [] } = handler := by
      rw [List.append_nil, ← there]
      exact congrArg (fun queue => { handler with queue := queue }) (List.append_nil _)
    rw [same]
    exact .refl
  | @ask request next log reply answer run induction =>
    have events : Worker.progressEvents (⟨request, answer⟩ :: log) =
        Worker.progressEvents [⟨request, answer⟩] ++ Worker.progressEvents log :=
      Worker.progressEvents_append [⟨request, answer⟩] log
    rw [events, ← List.append_assoc, List.append_cons handler.log]
    refine .trans (.step .refl (.handle ⟨traffic, before ++ handler :: after⟩ before after handler _
      none rfl (.exchange handler request next answer there))) ?_
    apply induction
    rfl

end Service

/-! ## What is done to the links -/

namespace Exchange

variable {x : Exchange} {id : LinkId}

/-- A move of the worker's end puts at most one message on a link. -/
theorem moveLink_link (x : Exchange) (move : LinkMove) (id : LinkId) :
    ((x.moveLink move).link id).isDropped = (x.link id).isDropped ∧
      (((x.moveLink move).link id).messages = (x.link id).messages ∨
        ∃ message, move = .answer id message ∧
          ((x.moveLink move).link id).messages = (x.link id).messages ++ [message]) := by
  have update : ∀ (link : LinkId) (f : Link → Link),
      (∀ before, (f before).isDropped = before.isDropped ∧ (f before).messages = before.messages) →
        ((x.updateLink link f).link id).isDropped = (x.link id).isDropped ∧
          ((x.updateLink link f).link id).messages = (x.link id).messages := by
    intro link f keeps
    rcases link_updateLink x link id f with same | ⟨_, _, changed⟩
    · rw [same]
      exact ⟨rfl, rfl⟩
    · rw [changed]
      exact keeps _
  cases move with
  | openLink =>
    have blank : (x.openLink.1.link id).isDropped = (x.link id).isDropped ∧
        (x.openLink.1.link id).messages = (x.link id).messages := by
      by_cases old : id < x.links.length
      · simp [openLink, link, List.getElem?_append_left old]
      · rw [link_of_le (Nat.le_of_not_lt old)]
        rcases Nat.eq_or_lt_of_le (Nat.le_of_not_lt old) with rfl | beyond
        · simp [openLink, link]
          exact ⟨rfl, rfl⟩
        · rw [link_of_le]
          · exact ⟨rfl, rfl⟩
          · simpa [openLink] using Nat.succ_le_of_lt beyond
    exact ⟨blank.1, .inl blank.2⟩
  | takeRequest link =>
    simp only [moveLink, takeRequest]
    split
    · exact ⟨rfl, .inl rfl⟩
    · next request rest waiting =>
      have kept := update link (fun link => { link with requests := rest }) fun _ => ⟨rfl, rfl⟩
      exact ⟨kept.1, .inl kept.2⟩
  | answer link message =>
    simp only [moveLink, answer]
    split
    · exact ⟨rfl, .inl rfl⟩
    · rcases link_updateLink x link id
        (fun link => { link with messages := link.messages ++ [message] }) with
        same | ⟨rfl, _, changed⟩
      · exact ⟨congrArg Link.isDropped same, .inl (congrArg Link.messages same)⟩
      · have dropped := congrArg Link.isDropped changed
        exact ⟨dropped, .inr ⟨message, rfl, congrArg Link.messages changed⟩⟩
  | stopRequests link =>
    have kept := update link (fun link => { link with takesRequests := false, requests := [] })
      fun _ => ⟨rfl, rfl⟩
    exact ⟨kept.1, .inl kept.2⟩
  | dropLink link =>
    have stopped := update link (fun link => { link with takesRequests := false, requests := [] })
      fun _ => ⟨rfl, rfl⟩
    rcases link_updateLink (x.stopRequests link) link id
      (fun link => { link with mayAnswer := false }) with same | ⟨_, _, changed⟩
    · exact ⟨(congrArg Link.isDropped same).trans stopped.1,
        .inl ((congrArg Link.messages same).trans stopped.2)⟩
    · exact ⟨(congrArg Link.isDropped changed).trans stopped.1,
        .inl ((congrArg Link.messages changed).trans stopped.2)⟩

theorem answer_of_dropped (message : LinkMessage) (dropped : (x.link id).isDropped = true) :
    x.answer id message = x := if_pos dropped

/-- While the orchestrator listens, what the worker says stays on the link until it is heard. -/
theorem answer_link (known : id < x.links.length) (message : LinkMessage)
    (listens : (x.link id).isDropped = false) :
    ((x.answer id message).link id).messages = (x.link id).messages ++ [message] := by
  have put := link_updateLink_self known
    fun link => { link with messages := link.messages ++ [message] }
  unfold answer
  rw [if_neg (by rw [listens]; exact Bool.false_ne_true)]
  exact congrArg Link.messages put

/-- What a quiet move does to a link. -/
theorem moveLink_changes (x : Exchange) (move : LinkMove) (id : LinkId)
    (quiet : ((x.moveLink move).link id).messages <:+: (x.link id).messages) :
    (x.link id).Changes ((x.moveLink move).link id) [] [] [] := by
  obtain ⟨dropped, messages⟩ := moveLink_link x move id
  have same : ((x.moveLink move).link id).messages = (x.link id).messages := by
    rcases messages with same | ⟨message, _, longer⟩
    · exact same
    · have bound := quiet.length_le
      rw [longer, List.length_append, List.length_singleton] at bound
      exact absurd bound (Nat.not_succ_le_self _)
  refine ⟨?_, ⟨[], ?_, fun _ => rfl⟩, fun isDropped => dropped.trans isDropped, ?_⟩
  · rw [List.append_nil]
    exact moveLink_requests move
  · rw [same, List.append_nil, List.append_nil, List.nil_append]
  · intro silent isDropped
    rw [same]
    exact silent (dropped.symm.trans isDropped)

/-! ### Links stay -/

theorem updateLink_count (id : LinkId) (f : Link → Link) :
    (x.updateLink id f).links.length = x.links.length := List.length_modify _ _ _

theorem apply_links_count (step : Orchestrator.Step) :
    (x.apply step).links.length = x.links.length := by
  unfold apply dropUnused
  have carried := foldl_keeps (fun y => y.links.length) carryOut (fun y sending => by
    cases sending with
    | toPort port message =>
      simp only [carryOut]
      split <;> simp [wake]
    | toWorker link request => exact updateLink_count link _
    | _ => rfl) step.2 { x with orchestrator := step.1 }
  refine (foldl_keeps (fun y => y.links.length) _ (fun y id => ?_) _ _).trans carried
  split
  · rfl
  · exact updateLink_count id _

theorem takeIn_links_count {now : Nat} {intake : Intake} {input : Input}
    (offered : x.Offers now intake input) :
    (x.takeIn now intake).links.length = x.links.length := by
  cases offered with
  | message message rest waiting =>
    simp only [takeIn, takeMessage, waiting]
    rw [settleStop_links]
    exact apply_links_count _
  | answer link message rest linked waiting =>
    simp only [takeIn, takeAnswer, waiting]
    rw [apply_links_count]
    exact updateLink_count link _
  | ended link linked empty dead =>
    simp only [takeIn, takeAnswer, empty]
    exact apply_links_count _
  | sweep due => exact apply_links_count _
  | linked link known => exact apply_links_count _
  | refused => exact apply_links_count _
  | pauseOver attempt attempts due pausing late => exact apply_links_count _

theorem moveLink_links_count (move : LinkMove) :
    x.links.length ≤ (x.moveLink move).links.length := by
  cases move with
  | openLink => simp [moveLink, openLink]
  | takeRequest link =>
    simp only [moveLink, takeRequest]
    split
    · exact Nat.le_refl _
    · exact Nat.le_of_eq (updateLink_count link _).symm
  | answer link message =>
    simp only [moveLink, answer]
    split
    · exact Nat.le_refl _
    · exact Nat.le_of_eq (updateLink_count link _).symm
  | stopRequests link => exact Nat.le_of_eq (updateLink_count link _).symm
  | dropLink link =>
    exact Nat.le_of_eq ((updateLink_count link _).trans (updateLink_count link _)).symm

end Exchange

namespace Traffic

variable {config : RelayConfig} {started : Nat} {s after : Traffic}

theorem Step.links_count (step : Step config s after) :
    s.exchange.links.length ≤ after.exchange.links.length := by
  cases step.links with
  | apart links turns => exact Nat.le_of_eq (congrArg List.length links).symm
  | moved move exchange log =>
    rw [exchange]
    exact Exchange.moveLink_links_count move
  | turned intake input offered expected exchange turns =>
    rw [exchange]
    exact Nat.le_of_eq (Exchange.takeIn_links_count offered).symm

/-- While nothing is said, a turn of the orchestrator does to the links what it does, and nobody
else does more than to lose requests. -/
theorem Step.changes (step : Step config s after) (quiet : s.Quiet after) :
    (after.turns = s.turns ∧
        ∀ id, (s.exchange.link id).Changes (after.exchange.link id) [] [] []) ∨
      ∃ intake input, s.exchange.Offers s.now intake input ∧
        s.exchange.orchestrator.Expects input ∧
        after.turns = s.turns ++ [s.exchange.turn s.now input] ∧
        ∀ id, (s.exchange.link id).Changes (after.exchange.link id)
          (handedTo id (s.exchange.turn s.now input).sent) [] (s.exchange.heardOn id input) := by
  cases step.links with
  | apart links turns =>
    refine .inl ⟨turns, fun id => ?_⟩
    rw [Exchange.link_congr links]
    exact .refl _
  | moved move exchange log =>
    refine .inl ⟨by rw [Traffic.turns, Traffic.turns, log], fun id => ?_⟩
    have silent := quiet id
    rw [exchange] at silent ⊢
    exact Exchange.moveLink_changes _ move id silent
  | turned intake input offered expected exchange turns =>
    refine .inr ⟨intake, input, offered, expected, turns, fun id => ?_⟩
    rw [exchange]
    exact Exchange.takeIn_link offered

/-- What putting a message on one link does to a link. -/
structure Puts (link : LinkId) (said : Option LinkMessage) (before after : Link) (id : LinkId) :
    Prop where
  requests : after.requests.Sublist before.requests
  isDropped : after.isDropped = before.isDropped
  messages : after.messages = before.messages ∨
    id = link ∧ ∃ message, said = some message ∧ after.messages = before.messages ++ [message]

theorem put_link (s : Traffic) (link : LinkId) (said : Option LinkMessage) (id : LinkId) :
    Puts link said (s.exchange.link id) ((s.put link said).exchange.link id) id := by
  cases said with
  | none => exact ⟨List.Sublist.refl _, rfl, .inl rfl⟩
  | some message =>
    obtain ⟨dropped, messages⟩ := Exchange.moveLink_link s.exchange (.answer link message) id
    refine ⟨Exchange.moveLink_requests _, dropped, ?_⟩
    rcases messages with same | ⟨_, ⟨⟩, longer⟩
    · exact .inl same
    · exact .inr ⟨rfl, message, rfl, longer⟩

theorem put_turns (s : Traffic) (link : LinkId) (said : Option LinkMessage) :
    (s.put link said).turns = s.turns := by
  cases said <;> rfl

theorem put_links_count (s : Traffic) (link : LinkId) (said : Option LinkMessage) :
    s.exchange.links.length ≤ (s.put link said).exchange.links.length := by
  cases said with
  | none => exact Nat.le_refl _
  | some message => exact Exchange.moveLink_links_count _

theorem quiet_of_links (links : after.exchange.links = s.exchange.links) : s.Quiet after :=
  fun _ => Exchange.link_congr links ▸ List.infix_rfl

theorem quiet_of_move (move : Exchange.LinkMove)
    (silent : ∀ link message, move ≠ .answer link message)
    (exchange : after.exchange = s.exchange.moveLink move) : s.Quiet after := by
  intro id
  rw [exchange]
  rcases (Exchange.moveLink_link s.exchange move id).2 with same | ⟨message, speaks, _⟩
  · exact same ▸ List.infix_rfl
  · exact absurd speaks (silent id message)

theorem quiet_of_turn {intake : Intake} {input : Input}
    (offered : s.exchange.Offers s.now intake input)
    (exchange : after.exchange = s.exchange.takeIn s.now intake) : s.Quiet after := by
  intro id
  obtain ⟨lost, split, _⟩ := (Exchange.takeIn_link offered).messages
  rw [exchange, ← List.append_nil (s.exchange.link id).messages, split]
  exact ⟨_, lost, rfl⟩

/-- Nobody but the worker says anything on a link. -/
theorem Step.quiet_or_answers (step : Step config s after) :
    s.Quiet after ∨
      ∃ link message, after.exchange = s.exchange.moveLink (.answer link message) := by
  cases step.links with
  | apart links turns => exact .inl (quiet_of_links links)
  | moved move exchange log =>
    cases move with
    | answer link message => exact .inr ⟨link, message, exchange⟩
    | _ => exact .inl (quiet_of_move _ (fun _ _ same => by cases same) exchange)
  | turned intake input offered expected exchange turns =>
    exact .inl (quiet_of_turn offered exchange)

end Traffic

end BrowserScript.Relay

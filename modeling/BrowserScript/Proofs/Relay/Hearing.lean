import BrowserScript.Proofs.Relay.Serving

/-!
# What is heard under a relay id

Each relay id is handled once, on the link its request went out on, and what the orchestrator hears
under it are the first of the messages its handler has said, in their order. Main definition:
`Service.Kept`. Main results: `Service.Reaches.kept`, `Service.Kept.heard_prefix`.
-/

set_option autoImplicit false

namespace BrowserScript.Relay

open Program

/-! ## Requests on one link -/

/-- The requests that have ever been put on one link, in order. -/
def errandsOn (id : LinkId) (turns : List Turn) : List LinkRequest :=
  (errands turns).filterMap fun errand => if errand.1 = id then some errand.2 else none

/-- The requests that handlers have taken from one link, in order. -/
def servedOn (id : LinkId) (handlers : List Handler) : List LinkRequest :=
  handlers.filterMap fun handler => if handler.link = id then some handler.ready else none

theorem mem_errandsOn {id : LinkId} {ready : LinkRequest} {turns : List Turn} :
    ready ∈ errandsOn id turns ↔ (id, ready) ∈ errands turns :=
  mem_filterMap_of_only fun ⟨link, request⟩ => by simp

theorem mem_servedOn {handler : Handler} {handlers : List Handler} (member : handler ∈ handlers) :
    handler.ready ∈ servedOn handler.link handlers :=
  List.mem_filterMap.mpr ⟨handler, member, if_pos rfl⟩

theorem errandsOn_append (id : LinkId) (turns : List Turn) (turn : Turn) :
    errandsOn id (turns ++ [turn]) = errandsOn id turns ++ handedTo id turn.sent := by
  have own : (handedOver turn.sent).filterMap
      (fun errand => if errand.1 = id then some errand.2 else none) = handedTo id turn.sent := by
    unfold handedOver handedTo
    rw [List.filterMap_filterMap]
    congr 1
    funext sending
    cases sending <;> rfl
  unfold errandsOn
  rw [errands_append, List.filterMap_append, own]

theorem servedOn_append (id : LinkId) (first second : List Handler) :
    servedOn id (first ++ second) = servedOn id first ++ servedOn id second :=
  List.filterMap_append

/-- The ids of the requests on a link increase. -/
theorem Orchestrator.Run.errandsOn_increasing {config : RelayConfig} {started : Nat}
    {turns : List Turn} {o : Orchestrator} (run : Orchestrator.Run config started turns o)
    (id : LinkId) :
    (errandsOn id turns).Pairwise fun earlier later => earlier.relayId < later.relayId := by
  rw [errandsOn, List.pairwise_filterMap]
  refine run.errands_increasing.imp fun less first isFirst second isSecond => ?_
  split at isFirst
  · split at isSecond
    · cases isFirst
      cases isSecond
      exact less
    · cases isSecond
  · cases isFirst

/-- Handlers that take requests from links in order have relay ids of their own. -/
theorem Orchestrator.Run.handlers_distinct {config : RelayConfig} {started : Nat}
    {turns : List Turn} {o : Orchestrator} (run : Orchestrator.Run config started turns o)
    {handlers : List Handler}
    (taken : ∀ id, (servedOn id handlers).Sublist (errandsOn id turns)) :
    (handlers.map Handler.relayId).Nodup := by
  rw [List.Nodup, List.pairwise_map, List.pairwise_iff_forall_sublist]
  intro first second pair same
  have sent : ∀ handler ∈ handlers, (handler.link, handler.ready) ∈ errands turns :=
    fun handler member => mem_errandsOn.mp ((taken handler.link).subset (mem_servedOn member))
  have isFirst := sent first (pair.subset List.mem_cons_self)
  have isSecond := sent second (pair.subset (List.mem_cons_of_mem _ List.mem_cons_self))
  -- two handlers of one relay id would have taken it from the same link, one after the other
  obtain ⟨link, _⟩ := Prod.mk.inj (run.errand_unique isFirst isSecond same)
  have both : servedOn second.link [first, second] = [first.ready, second.ready] := by
    simp [servedOn, link]
  have ordered : [first.ready, second.ready].Sublist (errandsOn second.link turns) :=
    both ▸ (pair.filterMap _).trans (taken second.link)
  have less := (run.errandsOn_increasing second.link).sublist ordered
  exact Nat.ne_of_lt ((List.pairwise_cons.mp less).1 _ (List.mem_singleton.mpr rfl)) same

/-- What is said, heard and lost under a relay id adds up after a change as it did before. -/
theorem Link.Changes.delivered {before after : Link} {given : List LinkRequest}
    {heardNow said heardBefore : List LinkMessage} {relayId : RelayId}
    (changes : before.Changes after given [] heardNow)
    (delivered : ∃ lost, said = heardBefore ++ under relayId before.messages ++ lost ∧
      (before.isDropped = false → lost = [])) :
    ∃ lost, said = heardBefore ++ under relayId heardNow ++ under relayId after.messages ++ lost ∧
      (after.isDropped = false → lost = []) := by
  obtain ⟨lost, split, stays⟩ := delivered
  obtain ⟨gone, parts, keeps⟩ := changes.messages
  rw [List.append_nil] at parts
  refine ⟨under relayId gone ++ lost, ?_, fun listens => ?_⟩
  · rw [split, parts, under_append, under_append]
    simp only [List.append_assoc]
  · have listened : before.isDropped = false := by
      by_contra dropped
      rw [changes.dropped (by simpa using dropped)] at listens
      cases listens
    rw [keeps listens, stays listened]
    rfl

namespace Service

variable {worker : Worker.Config} {config : RelayConfig} {started : Nat} {s after : Service}

theorem Step.traffic (step : Step worker config s after) :
    after.traffic = s.traffic ∨ Traffic.Step config s.traffic after.traffic := by
  cases step with
  | relay traffic step quiet => exact .inr step
  | serve link ready taken => exact .inr (.link _ _)
  | handle before rest handler next said same step =>
    cases said with
    | none => exact .inl rfl
    | some message => exact .inr (.link _ _)

/-- The relay in a service is the relay in traffic. -/
theorem Reaches.traffic (reached : Reaches worker config started s) :
    Traffic.Reaches config started s.traffic := by
  induction reached with
  | start => exact .start
  | step reached step induction =>
    rcases step.traffic with same | step
    · rw [same]
      exact induction
    · exact .step induction step

/-! ## The books of a service -/

/-- What has been taken from the links, said on them, heard and lost. -/
structure Kept (worker : Worker.Config) (s : Service) : Prop where
  sound : ∀ handler ∈ s.handlers, handler.Sound worker
  known : ∀ handler ∈ s.handlers, handler.link < s.traffic.exchange.links.length
  /-- Requests are handled in the order they are put on a link, if they are not lost. -/
  taken : ∀ id, (servedOn id s.handlers ++ (s.traffic.exchange.link id).requests).Sublist
    (errandsOn id s.traffic.turns)
  /-- What is on a link has been said by a handler there. -/
  onLinks : ∀ id, ∀ message ∈ (s.traffic.exchange.link id).messages,
    ∃ handler ∈ s.handlers, handler.link = id ∧ handler.relayId = message.relayId
  heard : ∀ message ∈ Relay.heard s.traffic.turns,
    ∃ handler ∈ s.handlers, handler.relayId = message.relayId
  solicited : Solicited s.traffic.turns
  /-- What a handler has said has been heard, is on its way, or has been lost with the link. -/
  delivered : ∀ handler ∈ s.handlers, ∃ lost,
    handler.said = heardUnder handler.relayId s.traffic.turns ++
      under handler.relayId (s.traffic.exchange.link handler.link).messages ++ lost ∧
    ((s.traffic.exchange.link handler.link).isDropped = false → lost = [])

namespace Kept

theorem start (worker : Worker.Config) (config : RelayConfig) (started : Nat) :
    Kept worker (.start config started) where
  sound := fun _ member => absurd member List.not_mem_nil
  known := fun _ member => absurd member List.not_mem_nil
  taken := fun _ => List.Sublist.refl _
  onLinks := fun _ _ member => absurd member List.not_mem_nil
  heard := fun _ member => absurd member List.not_mem_nil
  solicited := fun _ _ _ split => by
    simp [Service.start, Traffic.turns, Traffic.start, Traffic.turnsOf] at split
  delivered := fun _ member => absurd member List.not_mem_nil

/-- What a handler works on has been put on its link. -/
theorem errand (kept : Kept worker s) {handler : Handler} (member : handler ∈ s.handlers) :
    (handler.link, handler.ready) ∈ errands s.traffic.turns :=
  mem_errandsOn.mp ((kept.taken handler.link).subset
    (List.mem_append_left _ (mem_servedOn member)))

/-- No relay id is handled twice. -/
theorem distinct (kept : Kept worker s) (reached : Traffic.Reaches config started s.traffic) :
    (s.handlers.map Handler.relayId).Nodup :=
  reached.run.handlers_distinct fun id => (List.sublist_append_left _ _).trans (kept.taken id)

theorem unique (kept : Kept worker s) (reached : Traffic.Reaches config started s.traffic)
    {left right : Handler} (isLeft : left ∈ s.handlers) (isRight : right ∈ s.handlers)
    (same : left.relayId = right.relayId) : left = right :=
  List.inj_on_of_nodup_map (kept.distinct reached) isLeft isRight same

/-- A turn hears what comes under a relay id on the link of its handler. -/
theorem heard_on_link (kept : Kept worker s) (reached : Traffic.Reaches config started s.traffic)
    {now : Nat} {intake : Intake} {input : Input}
    (offered : s.traffic.exchange.Offers now intake input) {handler : Handler}
    (member : handler ∈ s.handlers) :
    under handler.relayId input.heard?.toList =
      under handler.relayId (s.traffic.exchange.heardOn handler.link input) := by
  cases offered with
  | answer link message rest linked waiting =>
    simp only [Exchange.heardOn, Input.heard?, Option.toList_some, linked, Option.some.injEq]
    split
    · rfl
    · next elsewhere =>
      obtain ⟨other, isOther, onLink, number⟩ := kept.onLinks link message
        (by rw [waiting]; exact List.mem_cons_self)
      have apart : message.relayId ≠ handler.relayId := by
        intro same
        obtain rfl := kept.unique reached isOther member (number.trans same)
        exact elsewhere onLink.symm
      simp [under, apart]
  | _ => rfl

theorem relay (kept : Kept worker s) (reached : Traffic.Reaches config started s.traffic)
    {traffic : Traffic} (step : Traffic.Step config s.traffic traffic)
    (quiet : s.traffic.Quiet traffic) : Kept worker { s with traffic := traffic } := by
  have known := fun handler member =>
    Nat.lt_of_lt_of_le (kept.known handler member) step.links_count
  have onLinks := fun id message member => kept.onLinks id message ((quiet id).subset member)
  rcases step.changes quiet with
    ⟨turns, changes⟩ | ⟨intake, input, offered, expected, turns, changes⟩
  · refine ⟨kept.sound, known, fun id => ?_, onLinks, ?_, ?_, fun handler member => ?_⟩
    · have fewer := (changes id).requests
      rw [List.append_nil] at fewer
      rw [turns]
      exact ((List.Sublist.refl _).append fewer).trans (kept.taken id)
    · rw [turns]
      exact kept.heard
    · rw [turns]
      exact kept.solicited
    · have split := (changes handler.link).delivered (kept.delivered handler member)
      rw [turns]
      simpa only [under, List.filter_nil, List.append_nil] using split
  · -- whatever is heard has been said by a handler, whose relay id was given out before
    have answered : ∀ message ∈ input.heard?,
        ∃ handler ∈ s.handlers, handler.relayId = message.relayId := by
      intro message said
      cases offered with
      | answer link message rest linked waiting =>
        cases said
        obtain ⟨handler, member, _, number⟩ := kept.onLinks link message
          (by rw [waiting]; exact List.mem_cons_self)
        exact ⟨handler, member, number⟩
      | _ => cases said
    refine ⟨kept.sound, known, fun id => ?_, onLinks, ?_, ?_, fun handler member => ?_⟩
    · have more := (List.Sublist.refl (servedOn id s.handlers)).append (changes id).requests
      rw [turns, errandsOn_append]
      refine more.trans ?_
      rw [← List.append_assoc]
      exact (kept.taken id).append (List.Sublist.refl _)
    · intro message said
      rw [turns, heard_append] at said
      rcases List.mem_append.mp said with before | new
      · exact kept.heard message before
      · exact answered message (Option.mem_toList.mp new)
    · rw [turns]
      refine kept.solicited.snoc fun message said => ?_
      obtain ⟨handler, member, number⟩ := answered message said
      obtain ⟨entry, given, same, _⟩ := reached.errand_called (kept.errand member)
      exact ⟨entry, given, same.trans number⟩
    · have split := (changes handler.link).delivered (kept.delivered handler member)
      rw [turns, heardUnder_append]
      dsimp only [Exchange.turn]
      rw [kept.heard_on_link reached offered member]
      exact split

/-- Nothing is heard under a relay id that nobody handles. -/
theorem unheard (kept : Kept worker s) {relayId : RelayId}
    (unhandled : ∀ handler ∈ s.handlers, handler.relayId ≠ relayId) :
    heardUnder relayId s.traffic.turns = [] := by
  refine under_eq_nil fun message said same => ?_
  obtain ⟨handler, member, number⟩ := kept.heard message said
  exact unhandled handler member (number.trans same)

theorem unsaid (kept : Kept worker s) {relayId : RelayId}
    (unhandled : ∀ handler ∈ s.handlers, handler.relayId ≠ relayId) (link : LinkId) :
    under relayId (s.traffic.exchange.link link).messages = [] := by
  refine under_eq_nil fun message onLink same => ?_
  obtain ⟨handler, member, _, number⟩ := kept.onLinks link message onLink
  exact unhandled handler member (number.trans same)

/-- The request that is taken from a link is the next in the order they were put on it. -/
theorem taken_more (kept : Kept worker s) {link : LinkId} {ready : LinkRequest}
    (served : (s.traffic.exchange.takeRequest link).2 = some ready) (id : LinkId) :
    (servedOn id (s.handlers ++ [.start worker link ready]) ++
      ((s.traffic.moved (.takeRequest link)).exchange.link id).requests).Sublist
        (errandsOn id s.traffic.turns) := by
  obtain ⟨rest, waiting⟩ := Exchange.takeRequest_waiting served
  have shape : (s.traffic.moved (.takeRequest link)).exchange =
      s.traffic.exchange.updateLink link fun link => { link with requests := rest } := by
    simp only [Traffic.moved, Exchange.moveLink, Exchange.takeRequest, waiting]
  have before := kept.taken id
  rw [servedOn_append, shape]
  by_cases own : id = link
  · subst own
    rw [Exchange.link_updateLink_self (Exchange.inside_of_waiting waiting)]
    rw [waiting, List.append_cons] at before
    simpa [servedOn, Handler.start] using before
  · rw [Exchange.link_updateLink_of_ne own]
    simpa [servedOn, Handler.start, Ne.symm own] using before

theorem serve (kept : Kept worker s) (reached : Traffic.Reaches config started s.traffic)
    {link : LinkId} {ready : LinkRequest}
    (served : (s.traffic.exchange.takeRequest link).2 = some ready) :
    Kept worker
      ⟨s.traffic.moved (.takeRequest link), s.handlers ++ [.start worker link ready]⟩ := by
  have taken := kept.taken_more served
  have inside : link < s.traffic.exchange.links.length := by
    obtain ⟨rest, waiting⟩ := Exchange.takeRequest_waiting served
    exact Exchange.inside_of_waiting waiting
  have silent : ∀ id, ((s.traffic.moved (.takeRequest link)).exchange.link id).messages =
      (s.traffic.exchange.link id).messages := by
    intro id
    rcases (Exchange.moveLink_link s.traffic.exchange (.takeRequest link) id).2 with
      same | ⟨_, same, _⟩
    · exact same
    · cases same
  -- with the new handler too no relay id is handled twice, so the one it has is new
  have distinct := reached.run.handlers_distinct fun id =>
    (List.sublist_append_left _ _).trans (taken id)
  have fresh : ∀ handler ∈ s.handlers, handler.relayId ≠ ready.relayId := by
    intro handler member same
    rw [List.map_append, List.nodup_append] at distinct
    exact distinct.2.2 _ (List.mem_map_of_mem member) _ (List.mem_singleton.mpr rfl) same
  refine ⟨?_, ?_, taken, ?_, ?_, kept.solicited, ?_⟩
  · intro handler member
    rcases List.mem_append.mp member with before | new
    · exact kept.sound handler before
    · rw [List.mem_singleton.mp new]
      exact Handler.start_sound worker link ready
  · intro handler member
    refine Nat.lt_of_lt_of_le ?_ (Exchange.moveLink_links_count _)
    rcases List.mem_append.mp member with before | new
    · exact kept.known handler before
    · rw [List.mem_singleton.mp new]
      exact inside
  · intro id message onLink
    obtain ⟨handler, member, same⟩ := kept.onLinks id message (silent id ▸ onLink)
    exact ⟨handler, List.mem_append_left _ member, same⟩
  · intro message said
    obtain ⟨handler, member, same⟩ := kept.heard message said
    exact ⟨handler, List.mem_append_left _ member, same⟩
  · intro handler member
    dsimp only
    rw [silent]
    dsimp only [Traffic.moved, Traffic.turns]
    rw [(Exchange.moveLink_link _ _ _).1]
    rcases List.mem_append.mp member with before | new
    · exact kept.delivered handler before
    · obtain rfl := List.mem_singleton.mp new
      refine ⟨[], ?_, fun _ => rfl⟩
      change [] = heardUnder ready.relayId s.traffic.turns ++
        under ready.relayId (s.traffic.exchange.link link).messages ++ []
      rw [kept.unheard fresh, kept.unsaid fresh]
      rfl

/-- What is said on a link that the orchestrator has dropped is lost, and on any other it waits. -/
theorem delivered_more (kept : Kept worker s) {handler : Handler}
    (member : handler ∈ s.handlers) {said : Option LinkMessage}
    (own : ∀ message, said = some message → message.relayId = handler.relayId) :
    ∃ lost, handler.said ++ said.toList = heardUnder handler.relayId s.traffic.turns ++
        under handler.relayId
          ((s.traffic.put handler.link said).exchange.link handler.link).messages ++ lost ∧
      (((s.traffic.put handler.link said).exchange.link handler.link).isDropped = false →
        lost = []) := by
  obtain ⟨lost, split, stays⟩ := kept.delivered handler member
  cases said with
  | none => exact ⟨lost, by rw [Option.toList_none, List.append_nil]; exact split, stays⟩
  | some message =>
    have mine : under handler.relayId [message] = [message] := by simp [under, own message rfl]
    dsimp only [Traffic.put, Traffic.moved, Exchange.moveLink]
    cases dropped : (s.traffic.exchange.link handler.link).isDropped with
    | true =>
      rw [Exchange.answer_of_dropped message dropped, split]
      refine ⟨lost ++ [message], by simp, fun listens => ?_⟩
      rw [dropped] at listens
      cases listens
    | false =>
      rw [Exchange.answer_link (kept.known handler member) message dropped, split, stays dropped,
        under_append, mine]
      exact ⟨[], by simp, fun _ => rfl⟩

section
variable {before after : List Handler} {handler next : Handler} {said : Option LinkMessage}
  (handlers : s.handlers = before ++ handler :: after) (step : handler.Step said next)
include handlers

/-- The handlers after a step are those before it, one of them further on. -/
theorem replaced_cases (kept : Kept worker s) (reached : Traffic.Reaches config started s.traffic)
    {other : Handler} (member : other ∈ before ++ next :: after) :
    other = next ∨ other ∈ s.handlers ∧ other.relayId ≠ handler.relayId := by
  have distinct := kept.distinct reached
  rw [handlers, List.map_append, List.map_cons, List.nodup_middle, List.nodup_cons,
    ← List.map_append] at distinct
  rw [List.mem_append, List.mem_cons, or_left_comm] at member
  refine member.imp id fun elsewhere => ⟨?_, fun same => ?_⟩
  · rw [handlers, List.mem_append, List.mem_cons]
    exact elsewhere.imp id .inr
  · exact distinct.1 (List.mem_map.mpr ⟨other, List.mem_append.mpr elsewhere, same⟩)

include step

theorem replaced_goes_on {other : Handler} (member : other ∈ s.handlers) :
    ∃ later ∈ before ++ next :: after, later.link = other.link ∧ later.relayId = other.relayId := by
  rw [handlers, List.mem_append, List.mem_cons, or_left_comm] at member
  rcases member with rfl | elsewhere
  · exact ⟨next, List.mem_append_right _ List.mem_cons_self, step.link, step.number⟩
  · refine ⟨other, ?_, rfl, rfl⟩
    rw [List.mem_append, List.mem_cons]
    exact elsewhere.imp id .inr

theorem replaced_served (id : LinkId) :
    servedOn id (before ++ next :: after) = servedOn id s.handlers := by
  rw [handlers, servedOn_append, servedOn_append]
  simp only [servedOn, List.filterMap_cons, step.link, step.ready]

end

theorem handle (kept : Kept worker s) (reached : Traffic.Reaches config started s.traffic)
    {before after : List Handler} {handler next : Handler} {said : Option LinkMessage}
    (handlers : s.handlers = before ++ handler :: after) (step : handler.Step said next) :
    Kept worker ⟨s.traffic.put handler.link said, before ++ next :: after⟩ := by
  have isIn : handler ∈ s.handlers := by
    rw [handlers]
    exact List.mem_append_right _ List.mem_cons_self
  have sound := kept.sound handler isIn
  have still : ∀ other ∈ before ++ next :: after, other = next ∨
      other ∈ s.handlers ∧ other.relayId ≠ handler.relayId := fun _ member =>
    kept.replaced_cases handlers reached member
  have goesOn : ∀ other ∈ s.handlers, ∃ later ∈ before ++ next :: after,
      later.link = other.link ∧ later.relayId = other.relayId := fun _ member =>
    replaced_goes_on handlers step member
  have turns := s.traffic.put_turns handler.link said
  have links := s.traffic.put_link handler.link said
  refine ⟨?_, ?_, fun id => ?_, ?_, ?_, ?_, ?_⟩
  · intro other member
    rcases still other member with rfl | ⟨old, _⟩
    · exact step.sound sound
    · exact kept.sound other old
  · intro other member
    refine Nat.lt_of_lt_of_le ?_ (s.traffic.put_links_count handler.link said)
    rcases still other member with rfl | ⟨old, _⟩
    · rw [step.link]
      exact kept.known handler isIn
    · exact kept.known other old
  · rw [replaced_served handlers step id, turns]
    exact ((List.Sublist.refl _).append (links id).requests).trans (kept.taken id)
  · intro id message onLink
    rcases (links id).messages with same | ⟨rfl, new, isNew, longer⟩
    · obtain ⟨other, member, place, speaks⟩ := kept.onLinks id message (same ▸ onLink)
      obtain ⟨later, isLater, there, also⟩ := goesOn other member
      exact ⟨later, isLater, there.trans place, also.trans speaks⟩
    · rw [longer] at onLink
      rcases List.mem_append.mp onLink with before | last
      · obtain ⟨other, member, place, speaks⟩ := kept.onLinks _ message before
        obtain ⟨later, isLater, there, also⟩ := goesOn other member
        exact ⟨later, isLater, there.trans place, also.trans speaks⟩
      · rw [List.mem_singleton.mp last]
        exact ⟨next, List.mem_append_right _ List.mem_cons_self, step.link,
          step.number.trans (step.said_relayId isNew).symm⟩
  · intro message wasSaid
    rw [turns] at wasSaid
    obtain ⟨other, member, speaks⟩ := kept.heard message wasSaid
    obtain ⟨later, isLater, _, also⟩ := goesOn other member
    exact ⟨later, isLater, also.trans speaks⟩
  · rw [turns]
    exact kept.solicited
  · intro other member
    rw [turns]
    rcases still other member with rfl | ⟨old, apart⟩
    · rw [step.said_append sound, step.number, step.link]
      exact kept.delivered_more isIn fun message isSaid => step.said_relayId isSaid
    · have untouched : under other.relayId
          ((s.traffic.put handler.link said).exchange.link other.link).messages =
            under other.relayId (s.traffic.exchange.link other.link).messages := by
        rcases (links other.link).messages with same | ⟨_, new, isNew, longer⟩
        · rw [same]
        · have foreign : new.relayId ≠ other.relayId :=
            (step.said_relayId isNew).trans_ne apart.symm
          rw [longer, under_append]
          simp [under, foreign]
      rw [untouched, (links other.link).isDropped]
      exact kept.delivered other old

end Kept

theorem Reaches.kept (reached : Reaches worker config started s) : Kept worker s := by
  induction reached with
  | start => exact .start worker config started
  | step reached step induction =>
    cases step with
    | relay traffic step quiet => exact induction.relay reached.traffic step quiet
    | serve link ready served => exact induction.serve reached.traffic served
    | handle before after handler next said handlers step =>
      exact induction.handle reached.traffic handlers step

/-- What is heard under the relay id of a handler are the first of the messages it has said. -/
theorem Kept.heard_prefix (kept : Kept worker s) {handler : Handler}
    (member : handler ∈ s.handlers) :
    heardUnder handler.relayId s.traffic.turns <+: handler.said := by
  obtain ⟨lost, split, _⟩ := kept.delivered handler member
  rw [split, List.append_assoc]
  exact List.prefix_append _ _

end Service

end BrowserScript.Relay

import BrowserScript.Proofs.Devtools.Losses
import BrowserScript.Proofs.Session.Crowd
import BrowserScript.Simulation.Task

/-!
# The loss of the connection

When the connection ends, every session is announced to be gone, all at once. A manager that cannot
keep so many events forgets the oldest, and then the targets of the first sessions seem to be
attached still. Main definitions: `Simulation.World.afterLoss`, `Simulation.Serves`,
`Simulation.LossNoticed`. Main results: `Simulation.foldl_queueEvent`,
`Simulation.Serves.loss_noticed`.
-/

set_option autoImplicit false

namespace BrowserScript.Simulation

open Session Session.Manager World

variable {w : World} {i : Nat} {events news : List SessionEvent}

/-! ## Events that wait -/

/-- Whether what is too old is dropped early or late makes no difference. -/
theorem drop_latest {α : Type} (early late : List α) (capacity : Nat) :
    (early.drop (early.length - capacity) ++ late).drop
        ((early.drop (early.length - capacity) ++ late).length - capacity) =
      (early ++ late).drop ((early ++ late).length - capacity) := by
  have inside : early.length - capacity ≤ early.length := Nat.sub_le _ _
  rw [← List.drop_append_of_le_length inside, List.drop_drop]
  refine congrArg (List.drop · (early ++ late)) ?_
  simp only [List.length_drop, List.length_append]
  omega

/-- Of events that come one after the other the latest are kept. -/
theorem foldl_queueEvent (some : news ≠ []) : news.foldl queueEvent events =
    (events ++ news).drop ((events ++ news).length - eventCapacity) := by
  induction news generalizing events with
  | nil => exact absurd rfl some
  | cons event rest induction =>
    cases rest with
    | nil => rfl
    | cons next rest =>
      have whole : events ++ event :: next :: rest = (events ++ [event]) ++ next :: rest :=
        (List.append_assoc events [event] (next :: rest)).symm
      rw [List.foldl_cons, induction (List.cons_ne_nil _ _), whole]
      exact drop_latest (events ++ [event]) (next :: rest) eventCapacity

/-! ## Who keeps what -/

theorem managers_wake (id : TaskId) : (w.wake id).managers = w.managers := by
  unfold World.wake
  split <;> rfl

theorem managers_wakeAll (ids : List TaskId) : (w.wakeAll ids).managers = w.managers := by
  unfold wakeAll
  induction ids generalizing w with
  | nil => rfl
  | cons id rest induction => rw [List.foldl_cons, induction, managers_wake]

theorem managers_spawn (job : Job) : (w.spawn job).1.managers = w.managers := managers_wake _

theorem managers_wakeOperation (id : OperationId) :
    (wakeOperation i w id).managers = w.managers := by
  unfold wakeOperation
  split
  · split
    · exact managers_spawn _
    · rfl
  · exact managers_wakeAll _

theorem managed_congr {other : World} (same : other.managers = w.managers) :
    other.managed i = w.managed i := by
  unfold World.managed
  rw [same]

theorem managers_setManager (m : Manager) : (w.setManager i m).managers =
    w.managers.modify i fun entry => { entry with manager := { m with woken := [] } } := by
  have woken : ∀ (ids : List OperationId) (w : World),
      (ids.foldl (wakeOperation i) w).managers = w.managers := by
    intro ids
    induction ids with
    | nil => exact fun _ => rfl
    | cons id rest induction =>
      exact fun w => (induction (wakeOperation i w id)).trans (managers_wakeOperation id)
  exact woken _ _

theorem managed_setManager (inside : i < w.managers.length) (m : Manager) :
    (w.setManager i m).managed i = { w.managed i with manager := { m with woken := [] } } := by
  unfold World.managed
  rw [managers_setManager]
  simp [inside]

theorem length_setManager (m : Manager) :
    (w.setManager i m).managers.length = w.managers.length := by
  rw [managers_setManager, List.length_modify]

theorem managed_emit (event : SessionEvent) :
    (w.emit event).managed i = hear event (w.managed i) := by
  unfold World.emit
  rw [managed_congr (managers_wakeAll _)]
  unfold World.managed
  simp only [List.getD_eq_getElem?_getD, List.getElem?_map]
  cases w.managers[i]? <;> rfl

/-- The event of a notice. -/
def event? : Devtools.Notice → Option SessionEvent
  | .event event => some event
  | .completed _ _ => none

theorem managed_notice (notice : Devtools.Notice) :
    (w.notice notice).managed i = (event? notice).elim (w.managed i) (hear · (w.managed i)) := by
  cases notice with
  | event event => exact managed_emit event
  | completed id result =>
    simp only [World.notice, event?, Option.elim_none]
    cases w.client with
    | channel => exact managed_congr (managers_wakeAll _)
    | browser => rfl

theorem managed_notices (notices : List Devtools.Notice) (live : (w.managed i).isLive = true) :
    (notices.foldl World.notice w).managed i =
      { w.managed i with
        events := (notices.filterMap event?).foldl queueEvent (w.managed i).events } := by
  induction notices generalizing w with
  | nil => rfl
  | cons notice rest induction =>
    have first := @managed_notice w i notice
    rw [List.foldl_cons]
    cases notice with
    | event event =>
      have heard : hear event (w.managed i) = { w.managed i with
          events := queueEvent (w.managed i).events event } := if_pos live
      rw [event?, Option.elim_some, heard] at first
      have still : ((w.notice (.event event)).managed i).isLive = true := by
        rw [first]
        exact live
      rw [induction still, first]
      rfl
    | completed id result =>
      simp only [event?, Option.elim_none] at first
      rw [induction (first ▸ live), first]
      rfl

/-- A manager takes in all events that it keeps. -/
theorem manager_pollEvents (inside : i < w.managers.length) :
    ((w.pollEvents i).managed i).manager =
      (w.managed i).manager.noticeAll (w.managed i).events := by
  have taken : ∀ (events : List SessionEvent) (w : World), i < w.managers.length →
      ((events.foldl (fun w event => w.setManager i ((w.managed i).manager.notice event)) w).managed
        i).manager = (w.managed i).manager.noticeAll events := by
    intro events
    induction events with
    | nil => exact fun _ _ => rfl
    | cons event rest induction =>
      intro w inside
      have still : i < (w.setManager i ((w.managed i).manager.notice event)).managers.length :=
        (length_setManager _).symm ▸ inside
      rw [List.foldl_cons, induction _ still, managed_setManager inside]
      rfl
  have emptied :
      i < (w.updateManaged i fun entry => { entry with events := [] }).managers.length := by
    simpa [updateManaged] using inside
  unfold pollEvents
  rw [taken _ _ emptied]
  simp [World.managed, updateManaged, inside]

/-! ## The end of the connection -/

namespace World

/-- The connection ends, and then a manager takes in what it has been told. -/
def afterLoss (w : World) (i : Nat) : World := (w.takeArrivals [.closed]).pollEvents i

end World

/-- The events that announce the end of a connection with these sessions. -/
def losses (sessions : List (String × String)) : List SessionEvent :=
  (sessions.map fun entry => .detached entry.2 entry.1 "connection closed") ++ [.disconnected]

theorem disconnect_losses (connection : Devtools.Connection) :
    connection.disconnect.2.filterMap event? = losses connection.sessions := by
  have completed : (connection.waiting.map fun call => Devtools.Notice.completed call.id
      (.error .connectionClosed)).filterMap event? = [] := by
    rw [List.filterMap_map]
    exact List.filterMap_eq_nil_iff.mpr fun _ _ => rfl
  simp only [Devtools.Connection.disconnect, List.filterMap_append, completed, losses]
  rw [List.filterMap_map, List.nil_append]
  exact congrArg (· ++ _) (congrFun List.filterMap_eq_map connection.sessions)

/-- A manager that all sessions of a connection belong to, as far as it has published them. -/
structure Serves (w : World) (i : Nat) (channel : Channel) : Prop where
  connected : w.client = .channel channel
  live : (w.managed i).isLive = true
  sound : Sound (w.managed i).manager
  /-- No session is registered twice. -/
  keyed : (channel.connection.sessions.map Prod.fst).Nodup
  registered : ∀ target handle, (w.managed i).manager.stateOf target = .attached handle →
    (handle.sessionId, target) ∈ channel.connection.sessions

variable {channel : Channel} {sessions : List (String × String)} {session target : String}

/-- What a manager keeps of the end of a connection. -/
def kept (events : List SessionEvent) (sessions : List (String × String)) : List SessionEvent :=
  (events ++ losses sessions).drop ((events ++ losses sessions).length - eventCapacity)

theorem managed_takeArrivals (connected : w.client = .channel channel)
    (live : (w.managed i).isLive = true) : (w.takeArrivals [.closed]).managed i =
      { w.managed i with events := kept (w.managed i).events channel.connection.sessions } := by
  have some : losses channel.connection.sessions ≠ [] := by simp [losses]
  have stillLive : (({ w with client := .channel { channel with
      connection := channel.connection.disconnect.1 } } : World).managed i).isLive = true := live
  simp only [takeArrivals, connected]
  rw [managed_notices _ stillLive, disconnect_losses, foldl_queueEvent some]
  rfl

theorem getElem?_losses_of_session {k : Nat} (here : sessions[k]? = some (session, target)) :
    (losses sessions)[k]? = some (.detached target session "connection closed") := by
  obtain ⟨inside, _⟩ := List.getElem?_eq_some_iff.mp here
  unfold losses
  rw [List.getElem?_append_left (by simpa using inside), List.getElem?_map, here]
  rfl

theorem getElem?_losses {k : Nat} {event : SessionEvent}
    (found : (losses sessions)[k]? = some event) :
    event = .disconnected ∨ ∃ entry, sessions[k]? = some entry ∧
      event = .detached entry.2 entry.1 "connection closed" := by
  unfold losses at found
  rw [List.getElem?_append] at found
  split at found
  · rw [List.getElem?_map, Option.map_eq_some_iff] at found
    obtain ⟨entry, here, rfl⟩ := found
    exact .inr ⟨entry, here, rfl⟩
  · exact .inl (List.mem_singleton.mp (List.mem_of_getElem? found))

/-- The loss of a session is forgotten exactly if too many come after it. -/
theorem kept_concerns (keyed : (sessions.map Prod.fst).Nodup)
    (registered : (session, target) ∈ sessions) :
    (∀ event ∈ kept events sessions, event.concerns target session = false) ↔
      ∃ k, sessions[k]? = some (session, target) ∧ k + eventCapacity ≤ sessions.length := by
  have length : (events ++ losses sessions).length = events.length + (sessions.length + 1) := by
    simp [losses]
  unfold kept
  rw [length]
  generalize eventCapacity = capacity
  generalize amount : events.length + (sessions.length + 1) - capacity = old
  constructor
  · intro forgotten
    obtain ⟨k, here⟩ := List.mem_iff_getElem?.mp registered
    refine ⟨k, here, ?_⟩
    by_contra late
    have index : old + (events.length + k - old) = events.length + k := by omega
    have member : .detached target session "connection closed" ∈
        (events ++ losses sessions).drop old := by
      refine List.mem_of_getElem? (i := events.length + k - old) ?_
      rw [List.getElem?_drop, index, List.getElem?_append_right (Nat.le_add_right _ _),
        Nat.add_sub_cancel_left, getElem?_losses_of_session here]
    have concerned := forgotten _ member
    simp [SessionEvent.concerns] at concerned
  · rintro ⟨k, here, early⟩ event member
    obtain ⟨j, found⟩ := List.mem_iff_getElem?.mp member
    have later : events.length ≤ old + j := by omega
    rw [List.getElem?_drop, List.getElem?_append_right later] at found
    rcases getElem?_losses found with rfl | ⟨entry, there, rfl⟩
    · rfl
    · refine Bool.eq_false_iff.mpr fun concerned => ?_
      obtain ⟨rfl, rfl⟩ : entry.2 = target ∧ entry.1 = session := by
        simpa [SessionEvent.concerns] using concerned
      have inside : k < (sessions.map Prod.fst).length := by
        rw [List.length_map]
        exact (List.getElem?_eq_some_iff.mp here).1
      have same : k = old + j - events.length := by
        refine (List.getElem?_inj inside keyed).mp ?_
        rw [List.getElem?_map, List.getElem?_map, here, there]
      omega

/-! ## What is left -/

/-- What is left of the sessions of a manager when the connection has ended. -/
structure LossNoticed (w : World) (i : Nat) (sessions : List (String × String)) : Prop where
  /-- A target stays attached exactly if too many sessions come after its own. -/
  left : ∀ target handle, ((w.afterLoss i).managed i).manager.stateOf target = .attached handle ↔
    (w.managed i).manager.stateOf target = .attached handle ∧
      ∃ k, sessions[k]? = some (handle.sessionId, target) ∧ k + eventCapacity ≤ sessions.length
  /-- If all sessions have been published, none is left exactly if there are few enough. -/
  all : (∀ entry ∈ sessions, ((w.managed i).manager.stateOf entry.2).isOn entry.1 = true) →
    ((∀ target, (((w.afterLoss i).managed i).manager.stateOf target).handle? = none) ↔
      sessions.length < eventCapacity)

theorem inside_of_live (live : (w.managed i).isLive = true) : i < w.managers.length := by
  by_contra outside
  rw [World.managed, List.getD_eq_getElem?_getD, List.getElem?_eq_none (Nat.le_of_not_lt outside)]
    at live
  cases live

theorem Serves.left_attached (serves : Serves w i channel) (target : String)
    (handle : SessionHandle) :
    ((w.afterLoss i).managed i).manager.stateOf target = .attached handle ↔
      (w.managed i).manager.stateOf target = .attached handle ∧
        ∃ k, channel.connection.sessions[k]? = some (handle.sessionId, target) ∧
          k + eventCapacity ≤ channel.connection.sessions.length := by
  have told := managed_takeArrivals serves.connected serves.live
  have inside : i < (w.takeArrivals [.closed]).managers.length := by
    refine inside_of_live ?_
    rw [told]
    exact serves.live
  rw [afterLoss, manager_pollEvents inside, told, noticeAll_attached serves.sound]
  refine and_congr_right fun attached => ?_
  exact kept_concerns serves.keyed (serves.registered target handle attached)

/-- The end of the connection is noticed for all sessions but the first ones of very many. -/
theorem Serves.loss_noticed (serves : Serves w i channel) :
    LossNoticed w i channel.connection.sessions where
  left := serves.left_attached
  all published := by
    constructor
    · intro noticed
      by_contra many
      cases first : channel.connection.sessions[0]? with
      | none =>
        rw [List.getElem?_eq_none_iff] at first
        have some : 0 < eventCapacity := Nat.zero_lt_succ _
        omega
      | some entry =>
        obtain ⟨handle, attached, same⟩ :=
          isOn_eq_true.mp (published entry (List.mem_of_getElem? first))
        have still := (serves.left_attached entry.2 handle).mpr
          ⟨attached, 0, by rw [first, same], by omega⟩
        have nothing := noticed entry.2
        rw [still] at nothing
        cases nothing
    · intro few target
      cases state : ((w.afterLoss i).managed i).manager.stateOf target with
      | attached handle =>
        obtain ⟨_, k, _, late⟩ := (serves.left_attached target handle).mp state
        omega
      | detached | attaching | reattaching => rfl

/-! ## A crowd on one connection -/

/-- A connection with so many attached sessions. -/
def crowdConnection : Nat → Devtools.Connection
  | 0 => .fresh
  | n + 1 => (crowdConnection n).register (tally 'S' n) (tally 'T' n)

def crowdChannel (n : Nat) : Channel := ⟨crowdConnection n, ⟨[], [], []⟩, [], []⟩

/-- A crowd of targets that are attached over one connection. -/
def crowdWorld (n : Nat) : World :=
  { World.initial (.channel (crowdChannel n)) with managers := [⟨crowd n, [], true⟩] }

theorem crowd_sessions (n : Nat) : (crowdConnection n).sessions =
    (List.range n).map fun k => (tally 'S' k, tally 'T' k) := by
  induction n with
  | zero => rfl
  | succ n induction =>
    have new : ∀ entry ∈ (crowdConnection n).sessions, (entry.1 != tally 'S' n) = true := by
      intro entry member
      rw [induction] at member
      obtain ⟨k, inside, rfl⟩ := List.mem_map.mp member
      refine bne_iff_ne.mpr fun same => ?_
      exact Nat.ne_of_lt (List.mem_range.mp inside) (tally_inj same)
    rw [crowdConnection, Devtools.Connection.register, List.filter_eq_self.mpr new, induction,
      List.range_succ, List.map_append]
    rfl

theorem crowd_keyed (n : Nat) : ((crowdConnection n).sessions.map Prod.fst).Nodup := by
  induction n with
  | zero => exact List.nodup_nil
  | succ n induction => exact Devtools.Connection.register_keyed induction _ _

theorem crowd_serves (n : Nat) : Serves (crowdWorld n) 0 (crowdChannel n) where
  connected := rfl
  live := rfl
  sound := (crowd_reached n).sound
  keyed := crowd_keyed n
  registered target handle attached := by
    obtain ⟨k, inside, rfl, rfl⟩ := crowd_attached_iff.mp attached
    change _ ∈ (crowdConnection n).sessions
    rw [crowd_sessions]
    exact List.mem_map.mpr ⟨k, List.mem_range.mpr inside, rfl⟩

theorem crowd_published (n : Nat) : ∀ entry ∈ (crowdConnection n).sessions,
    ((crowd n).stateOf entry.2).isOn entry.1 = true := by
  intro entry member
  rw [crowd_sessions] at member
  obtain ⟨k, inside, rfl⟩ := List.mem_map.mp member
  have attached := crowd_attached_iff.mpr ⟨k, List.mem_range.mp inside, rfl, rfl⟩
  exact isOn_eq_true.mpr ⟨_, attached, rfl⟩

/-- The loss of a connection with not too many sessions is noticed for all of them. -/
theorem small_loss_noticed : LossNoticed (crowdWorld 63) 0 (crowdConnection 63).sessions ∧
    ∀ target,
      ((((crowdWorld 63).afterLoss 0).managed 0).manager.stateOf target).handle? = none := by
  have noticed := (crowd_serves 63).loss_noticed
  refine ⟨noticed, (noticed.all (crowd_published 63)).mpr ?_⟩
  change (crowdConnection 63).sessions.length < _
  rw [crowd_sessions, List.length_map, List.length_range]
  decide

/-- With too many sessions a target stays attached. -/
theorem loss_not_always_noticed :
    ¬ ∀ (w : World) (i : Nat) (channel : Channel), Serves w i channel →
      ∀ target, (((w.afterLoss i).managed i).manager.stateOf target).handle? = none := by
  intro claim
  have attached : (crowd 64).stateOf (tally 'T' 0) = .attached (crowdHandle 0) :=
    crowd_attached_iff.mpr ⟨0, by decide, rfl, rfl⟩
  have left := ((crowd_serves 64).left_attached (tally 'T' 0) (crowdHandle 0)).mpr
    ⟨attached, 0, by
      change (crowdConnection 64).sessions[0]? = _ ∧ _ ≤ (crowdConnection 64).sessions.length
      rw [crowd_sessions, List.length_map, List.length_range, List.getElem?_map]
      exact ⟨rfl, by decide⟩⟩
  have nothing := claim _ _ _ (crowd_serves 64) (tally 'T' 0)
  rw [left] at nothing
  cases nothing

end BrowserScript.Simulation

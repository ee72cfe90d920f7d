import BrowserScript.Settings
import BrowserScript.Page.Call
import BrowserScript.Session.Basic
import BrowserScript.Session.Line

/-!
# The session manager

The manager keeps a slot for every target: its state, the line of those who want to attach or
detach, and the line of scripts. An operation advances in steps; between two of them it waits for
something, and other operations and events may come in between. Main definitions: `Manager.ensure`,
`Manager.detach`, `Manager.acquire` and `Manager.recover` begin an operation, `Manager.resume` goes
on with it when what it waits for is there, and `Manager.notice` takes in what the browser tells of
its own accord.
-/

namespace BrowserScript.Session

/-- Identifies a slot for good; a target may get a new slot when its old one has been forgotten. -/
abbrev SlotId := Nat

structure Slot where
  target : String
  state : SessionState
  /-- Those who want to attach or detach. -/
  attachLine : Line
  /-- Scripts; the first one has the lease. -/
  scriptLine : Line
  /-- A script has taken the lease. -/
  running : Bool
  /-- The slot is the one of its target. -/
  known : Bool
  deriving DecidableEq, Repr, Inhabited

/-- How far an attempt to attach has come. -/
inductive Attempt where
  /-- The browser has been asked to attach. -/
  | opening
  /-- The page has been asked whether it is ready. -/
  | probing (session : String) (deadline : Nat)
  /-- Between two probes. -/
  | pausing (session : String) (deadline : Nat)
  /-- The page cannot be used; the browser has been asked to give the session up again. -/
  | closing (session : String) (error : PageError)
  deriving DecidableEq, Repr

inductive Stage where
  /-- Not yet in line. -/
  | fresh
  | inLine
  /-- Before a lost session is replaced. -/
  | backoff
  | attempting (attempt : Attempt)
  /-- The browser has been asked to detach. -/
  | detaching
  deriving DecidableEq, Repr

inductive Operation where
  | ensure (slot : SlotId) (stage : Stage)
  | reattach (slot : SlotId) (stage : Stage)
  | detach (slot : SlotId) (stage : Stage)
  | acquire (slot : SlotId)
  | recover (slot : SlotId) (stale : SessionHandle) (deadline : Nat)
  deriving DecidableEq, Repr

/-- How an operation ends. -/
inductive Outcome where
  | attached (result : Except PageError SessionHandle)
  | reattached
  | detached (result : Except PageError Unit)
  | acquired (lease : OperationId)
  | recovered (handle : Option SessionHandle)

/-- What an operation waits for. -/
inductive Wait where
  /-- Its turn in a line. -/
  | turn
  /-- A change of the state, or the given time. -/
  | change (deadline : Nat)
  | time (time : Nat)
  /-- An answer of the browser. -/
  | attach (target : String)
  | probe (session : String)
  | close (session : String)
  /-- Nothing more. -/
  | over (outcome : Outcome)

/-- What an operation is given when it goes on. -/
inductive Input where
  /-- What it waits for may have come. -/
  | turn
  | attached (answer : Except PageError String)
  | probed (answer : Except PageError Json)
  | closed (answer : Except PageError Unit)

structure Manager where
  settings : SessionSettings
  keepAlive : Bool
  /-- The time between two probes. -/
  interval : Nat
  slots : List Slot
  /-- Operations that are not over. -/
  operations : List (OperationId × Operation)
  nextOperation : OperationId
  generation : Nat
  /-- Operations that may go on, in order. -/
  woken : List OperationId
  deriving Repr

namespace Manager

def ofSettings (settings : Settings) : Manager where
  settings := settings.session
  keepAlive := settings.keepAlive
  interval := settings.pollInterval
  slots := []
  operations := []
  nextOperation := 0
  generation := 0
  woken := []

/-! ## Slots -/

def slot (m : Manager) (i : SlotId) : Slot := m.slots.getD i default

def updateSlot (m : Manager) (i : SlotId) (f : Slot → Slot) : Manager :=
  { m with slots := m.slots.modify i f }

/-- The slot of a target, if it has one. -/
def find? (m : Manager) (target : String) : Option SlotId :=
  m.slots.findIdx? fun slot => slot.known && slot.target == target

/-- The slot of a target, made if there is none. -/
def slotOf (m : Manager) (target : String) : Manager × SlotId :=
  match m.find? target with
  | some i => (m, i)
  | none =>
    ({ m with slots := m.slots ++ [⟨target, .detached, [], [], false, true⟩] }, m.slots.length)

/-- The published state of a target. -/
def stateOf (m : Manager) (target : String) : SessionState :=
  match m.find? target with
  | some i => (m.slot i).state
  | none => .detached

/-! ## Operations -/

def wake (m : Manager) (ids : List OperationId) : Manager := { m with woken := m.woken ++ ids }

def begin (m : Manager) (operation : Operation) : Manager × OperationId :=
  ({ m with
    operations := m.operations ++ [(m.nextOperation, operation)]
    nextOperation := m.nextOperation + 1 }, m.nextOperation)

def operation? (m : Manager) (id : OperationId) : Option Operation := m.operations.lookup id

def setOperation (m : Manager) (id : OperationId) (operation : Operation) : Manager :=
  { m with operations := m.operations.map fun entry =>
    if entry.1 = id then (id, operation) else entry }

def finish (m : Manager) (id : OperationId) : Manager :=
  { m with operations := m.operations.filter fun entry => entry.1 != id }

def waitsOn (i : SlotId) : Operation → Bool
  | .recover slot _ _ => slot == i
  | _ => false

/-- Publishes a state; those who wait for a change are woken. -/
def publish (m : Manager) (i : SlotId) (state : SessionState) : Manager :=
  let watching := m.operations.filter fun entry => waitsOn i entry.2
  (m.updateSlot i fun slot => { slot with state }).wake (watching.map Prod.fst)

def joinAttachLine (m : Manager) (i : SlotId) (id : OperationId) : Manager :=
  m.updateSlot i fun slot => { slot with attachLine := slot.attachLine.join id }

def leaveAttachLine (m : Manager) (i : SlotId) (id : OperationId) : Manager :=
  let next := Line.next? (m.slot i).attachLine id
  (m.updateSlot i fun slot => { slot with attachLine := slot.attachLine.leave id }).wake next.toList

def leaveScriptLine (m : Manager) (i : SlotId) (id : OperationId) : Manager :=
  let next := Line.next? (m.slot i).scriptLine id
  (m.updateSlot i fun slot => { slot with scriptLine := slot.scriptLine.leave id }).wake next.toList

/-! ## Attaching -/

/-- The two operations that attach. -/
inductive Purpose where
  | ensure
  | reattach
  deriving DecidableEq, Repr

def Purpose.operation (purpose : Purpose) (i : SlotId) (stage : Stage) : Operation :=
  match purpose with
  | ensure => .ensure i stage
  | reattach => .reattach i stage

def Purpose.outcome (purpose : Purpose) (result : Except PageError SessionHandle) : Outcome :=
  match purpose with
  | ensure => .attached result
  | reattach => .reattached

/-- Ends an attempt: publishes what became of it and leaves the line. -/
def conclude (m : Manager) (purpose : Purpose) (i : SlotId) (id : OperationId)
    (result : Except PageError SessionHandle) : Manager × Wait :=
  let state := match result with
    | .ok handle => SessionState.attached handle
    | .error _ => .detached
  (((m.publish i state).leaveAttachLine i id).finish id, .over (purpose.outcome result))

/-- A page that is ready, or has had enough time, gets a handle of a new generation. -/
def succeed (m : Manager) (purpose : Purpose) (i : SlotId) (id : OperationId) (session : String) :
    Manager × Wait :=
  let generation := m.generation + 1
  let handle : SessionHandle := ⟨(m.slot i).target, session, m.keepAlive, generation⟩
  { m with generation }.conclude purpose i id (.ok handle)

def attempting (m : Manager) (purpose : Purpose) (i : SlotId) (id : OperationId)
    (attempt : Attempt) (wait : Wait) : Manager × Wait :=
  (m.setOperation id (purpose.operation i (.attempting attempt)), wait)

/-- Asks the browser to attach. -/
def openSession (m : Manager) (purpose : Purpose) (i : SlotId) (id : OperationId) :
    Manager × Wait :=
  m.attempting purpose i id .opening (.attach (m.slot i).target)

/-- What a probe says about the page. -/
inductive Readiness where
  | ready
  | notYet
  | gone (error : PageError)
  | unusable (error : PageError)

/-- An error of the evaluation may pass; other errors do not. -/
def readiness : Except PageError Json → Readiness
  | .ok value => if Page.isReady value then .ready else .notYet
  | .error error =>
    if error.isDetach then .gone error
    else
      match error with
      | .evaluation _ => .notYet
      | error => .unusable error

/-- Goes on with an attempt. -/
def advance (m : Manager) (now : Nat) (purpose : Purpose) (i : SlotId) (id : OperationId) :
    Attempt → Input → Manager × Wait
  | .opening, .attached (.ok session) =>
    m.attempting purpose i id (.probing session (now + m.settings.readyTimeoutMs.toNat))
      (.probe session)
  | .opening, .attached (.error error) => m.conclude purpose i id (.error error)
  | .opening, _ => (m, .attach (m.slot i).target)
  | .probing session deadline, .probed answer =>
    match readiness answer with
    | .ready => m.succeed purpose i id session
    | .gone error => m.conclude purpose i id (.error error)
    | .unusable error => m.attempting purpose i id (.closing session error) (.close session)
    | .notYet =>
      if deadline ≤ now then m.succeed purpose i id session
      else m.attempting purpose i id (.pausing session deadline) (.time (now + m.interval))
  | .probing session _, _ => (m, .probe session)
  | .pausing session deadline, _ =>
    m.attempting purpose i id (.probing session deadline) (.probe session)
  | .closing _ error, .closed _ => m.conclude purpose i id (.error error)
  | .closing session _, _ => (m, .close session)

/-- Goes on when it is the turn of an operation to attach or detach. -/
def takeTurn (m : Manager) (now : Nat) (i : SlotId) (id : OperationId) :
    Operation → Manager × Wait
  | .ensure _ _ =>
    match (m.slot i).state.handle? with
    | some handle => ((m.leaveAttachLine i id).finish id, .over (.attached (.ok handle)))
    | none => (m.publish i .attaching).openSession .ensure i id
  | .reattach _ _ =>
    if (m.slot i).state = .reattaching then
      (m.setOperation id (.reattach i .backoff),
        .time (now + m.settings.reattachBackoffMs.toNat))
    else ((m.leaveAttachLine i id).finish id, .over .reattached)
  | .detach _ _ =>
    let previous := (m.slot i).state
    let m := m.publish i .detached
    match previous.handle? with
    | some handle => (m.setOperation id (.detach i .detaching), .close handle.sessionId)
    | none => ((m.leaveAttachLine i id).finish id, .over (.detached (.ok ())))
  | _ => (m, .turn)

/-- Takes the turn if it has come. -/
def tryTurn (m : Manager) (now : Nat) (i : SlotId) (id : OperationId) (operation : Operation) :
    Manager × Wait :=
  if (m.slot i).attachLine.hasTurn id then m.takeTurn now i id operation else (m, .turn)

def lineUp (m : Manager) (now : Nat) (i : SlotId) (id : OperationId) (operation : Operation) :
    Manager × Wait :=
  ((m.joinAttachLine i id).setOperation id operation).tryTurn now i id operation

/-- Begins to replace a lost session, if it is still the one of the slot. -/
def startReattach (m : Manager) (i : SlotId) (session : String) : Manager :=
  if (m.slot i).state.isOn session then
    let (m, id) := (m.publish i .reattaching).begin (.reattach i .fresh)
    m.wake [id]
  else m

/-! ## Leases -/

def takeLease (m : Manager) (i : SlotId) (id : OperationId) : Manager × Wait :=
  if (m.slot i).scriptLine.hasTurn id then
    (m.updateSlot i fun slot => { slot with running := true }, .over (.acquired id))
  else (m, .turn)

/-- Leaves the line of scripts. Who has the lease gives it back. -/
def leaveScripts (m : Manager) (i : SlotId) (id : OperationId) : Manager :=
  let m :=
    if (m.slot i).scriptLine.hasTurn id then m.updateSlot i fun slot => { slot with running := false }
    else m
  (m.leaveScriptLine i id).finish id

/-- Gives a lease back. -/
def release (m : Manager) (lease : OperationId) : Manager :=
  match m.operation? lease with
  | some (.acquire i) => m.leaveScripts i lease
  | _ => m

/-! ## Recovery -/

/-- What the state of a slot means for one who wants a session newer than `stale`; `none` while that
is open. -/
def recovery (stale : SessionHandle) : SessionState → Option (Option SessionHandle)
  | .attached handle => if stale.generation < handle.generation then some (some handle) else none
  | .detached => some none
  | _ => none

def awaitRecovery (m : Manager) (now : Nat) (i : SlotId) (id : OperationId)
    (stale : SessionHandle) (deadline : Nat) : Manager × Wait :=
  match recovery stale (m.slot i).state with
  | some result => (m.finish id, .over (.recovered result))
  | none =>
    if deadline ≤ now then (m.finish id, .over (.recovered none)) else (m, .change deadline)

/-! ## Beginning, resuming, dropping -/

/-- Wants a session of the target. -/
def ensure (m : Manager) (now : Nat) (target : String) : Manager × OperationId × Wait :=
  let (m, i) := m.slotOf target
  match (m.slot i).state.handle? with
  | some handle => (m, m.nextOperation, .over (.attached (.ok handle)))
  | none =>
    let (m, id) := m.begin (.ensure i .inLine)
    let (m, wait) := m.lineUp now i id (.ensure i .inLine)
    (m, id, wait)

/-- Wants the target without a session. -/
def detach (m : Manager) (now : Nat) (target : String) : Manager × OperationId × Wait :=
  let (m, i) := m.slotOf target
  let (m, id) := m.begin (.detach i .inLine)
  let (m, wait) := m.lineUp now i id (.detach i .inLine)
  (m, id, wait)

/-- Wants to run a script on the target. -/
def acquire (m : Manager) (target : String) : Manager × OperationId × Wait :=
  let (m, i) := m.slotOf target
  let (m, id) := m.begin (.acquire i)
  let (m, wait) := (m.updateSlot i fun slot =>
    { slot with scriptLine := slot.scriptLine.join id }).takeLease i id
  (m, id, wait)

/-- Wants a session newer than one that went away. Under a script this starts the replacement,
unless it has been started already. -/
def recover (m : Manager) (now : Nat) (stale : SessionHandle) : Manager × OperationId × Wait :=
  let (m, i) := m.slotOf stale.targetId
  let m := if (m.slot i).running then m.startReattach i stale.sessionId else m
  let deadline := now + m.settings.recoverTimeoutMs.toNat
  let (m, id) := m.begin (.recover i stale deadline)
  match recovery stale (m.slot i).state with
  | some result => (m.finish id, id, .over (.recovered result))
  | none => (m, id, .change deadline)

/-- Goes on with an operation. -/
def resume (m : Manager) (now : Nat) (id : OperationId) (input : Input) : Manager × Wait :=
  match m.operation? id with
  | some (.ensure i .inLine) => m.tryTurn now i id (.ensure i .inLine)
  | some (.ensure i (.attempting attempt)) => m.advance now .ensure i id attempt input
  | some (.ensure _ _) => (m, .turn)
  | some (.reattach i .fresh) => m.lineUp now i id (.reattach i .inLine)
  | some (.reattach i .inLine) => m.tryTurn now i id (.reattach i .inLine)
  | some (.reattach i .backoff) => m.openSession .reattach i id
  | some (.reattach i (.attempting attempt)) => m.advance now .reattach i id attempt input
  | some (.reattach _ .detaching) => (m, .turn)
  | some (.detach i .detaching) =>
    match input with
    | .closed answer => ((m.leaveAttachLine i id).finish id, .over (.detached answer))
    | _ => (m, .turn)
  | some (.detach i stage) => m.tryTurn now i id (.detach i stage)
  | some (.acquire i) => m.takeLease i id
  | some (.recover i stale deadline) => m.awaitRecovery now i id stale deadline
  | none => (m, .turn)

/-- Gives an operation up. It leaves its line; what it has published stays. -/
def abandon (m : Manager) (id : OperationId) : Manager :=
  match m.operation? id with
  | some (.ensure i _) | some (.reattach i _) | some (.detach i _) =>
    (m.leaveAttachLine i id).finish id
  | some (.acquire i) => m.leaveScripts i id
  | some (.recover _ _ _) => m.finish id
  | none => m

/-! ## Events -/

/-- Forgets the slot of a closed target, unless it is in use. -/
def forget (m : Manager) (i : SlotId) : Manager :=
  let slot := m.slot i
  if slot.running || !slot.scriptLine.isEmpty || !slot.attachLine.isEmpty then m
  else m.updateSlot i fun slot => { slot with known := false }

/-- A session is gone. Under a script it is replaced. -/
def noticeDetach (m : Manager) (i : SlotId) (session : String) : Manager :=
  if (m.slot i).state.isOn session then
    if (m.slot i).running then m.startReattach i session else m.publish i .detached
  else m

/-- A target is gone. -/
def noticeClose (m : Manager) (i : SlotId) : Manager :=
  let m := if (m.slot i).state.handle?.isSome then m.publish i .detached else m
  m.forget i

def notice (m : Manager) : SessionEvent → Manager
  | .detached target session _ =>
    match m.find? target with
    | some i => m.noticeDetach i session
    | none => m
  | .targetClosed target =>
    match m.find? target with
    | some i => m.noticeClose i
    | none => m
  | .disconnected => m

end Manager

end BrowserScript.Session

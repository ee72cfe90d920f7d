import BrowserScript.Proofs.Session.Slots

/-!
# Deeds of the manager

Everything that the session manager does is a sequence of small deeds, each of which is done at
once: somebody enters or leaves a line, takes a turn, publishes a state, begins or ends. Main
definitions: `Session.Deed`, `Session.Does`, `Session.Deeds`.
-/

set_option autoImplicit false

namespace BrowserScript.Session

namespace Operation

/-- How far an operation that may attach or detach has come. -/
def stage? : Operation → Option Stage
  | ensure _ stage | reattach _ stage | detach _ stage => some stage
  | acquire _ | recover _ _ _ => none

/-- The operation stands in the line of those who want to attach or detach. -/
def isLined (operation : Operation) : Bool :=
  match operation.stage? with
  | none | some .fresh => false
  | _ => true

/-- The operation has had its turn and goes on with it. -/
def isBusy (operation : Operation) : Bool :=
  match operation.stage? with
  | some .backoff | some (.attempting _) | some .detaching => true
  | _ => false

/-- The operation has asked the browser to attach and is not done with what came of it. -/
def isAttempting (operation : Operation) : Bool :=
  match operation.stage? with
  | some (.attempting _) => true
  | _ => false

/-- The operation is a call that keeps its slot in use. -/
def isCall : Operation → Bool
  | ensure _ _ | detach _ _ | acquire _ => true
  | reattach _ _ | recover _ _ _ => false

/-- The stages that an operation goes through. -/
def IsStaged : Operation → Prop
  | ensure _ stage => stage = .inLine ∨ ∃ attempt, stage = .attempting attempt
  | reattach _ stage => stage ≠ .detaching
  | detach _ stage => stage = .inLine ∨ stage = .detaching
  | acquire _ | recover _ _ _ => True

end Operation

/-- What is done at once. -/
inductive Deed where
  /-- A target gets a slot. -/
  | makes (target : String)
  /-- A call begins and lines up. -/
  | enters (id : OperationId) (operation : Operation)
  /-- A reattachment that has been begun lines up. -/
  | linesUp (id : OperationId) (i : SlotId)
  /-- A call takes its turn and asks the browser to attach. -/
  | asks (id : OperationId) (i : SlotId)
  /-- A reattachment takes its turn. -/
  | backsOff (id : OperationId) (i : SlotId)
  /-- A reattachment asks the browser to attach. -/
  | asksAgain (id : OperationId) (i : SlotId)
  | proceeds (id : OperationId) (i : SlotId)
  | succeeds (id : OperationId) (i : SlotId) (purpose : Manager.Purpose) (handle : SessionHandle)
  | fails (id : OperationId) (i : SlotId) (purpose : Manager.Purpose)
  /-- A call takes its turn and asks the browser to detach. -/
  | clears (id : OperationId) (i : SlotId)
  /-- A call takes its turn to detach from a target without a session. -/
  | idles (id : OperationId) (i : SlotId)
  | leaves (id : OperationId) (operation : Operation)
  | queues (id : OperationId) (i : SlotId)
  | takesLease (id : OperationId) (i : SlotId)
  | leavesScripts (id : OperationId) (i : SlotId)
  /-- A session under a script is lost, and a reattachment begins. -/
  | loses (id : OperationId) (i : SlotId) (handle : SessionHandle)
  | watches (id : OperationId) (i : SlotId) (stale : SessionHandle) (deadline : Nat)
  | ceases (id : OperationId) (i : SlotId)
  /-- A session is gone. -/
  | drops (i : SlotId) (handle : SessionHandle)
  /-- A target is gone. -/
  | closes (i : SlotId)
  deriving Repr

/-- Whether the deed leaves alone what is published and who attempts to attach. -/
def Deed.isQuiet : Deed → Bool
  | makes _ | enters _ _ | linesUp _ _ | queues _ _ | takesLease _ _ | leavesScripts _ _
  | watches _ _ _ _ | ceases _ _ => true
  | _ => false

/-- A deed can be done, and this comes of it. -/
inductive Does (m : Manager) : Deed → Manager → Prop
  | makes (target : String) (missing : m.find? target = none) :
      Does m (.makes target)
        { m with slots := m.slots ++ [⟨target, .detached, [], [], false, true⟩] }
  | enters (i : SlotId) (operation : Operation) (known : (m.slot i).known = true)
      (call : operation = .ensure i .inLine ∨ operation = .detach i .inLine) :
      Does m (.enters m.nextOperation operation)
        (((m.begin operation).1.joinAttachLine i m.nextOperation).setOperation m.nextOperation
          operation)
  | linesUp (id : OperationId) (i : SlotId) (here : m.operation? id = some (.reattach i .fresh)) :
      Does m (.linesUp id i) ((m.joinAttachLine i id).setOperation id (.reattach i .inLine))
  | asks (id : OperationId) (i : SlotId) (here : m.operation? id = some (.ensure i .inLine))
      (turn : (m.slot i).attachLine.hasTurn id = true)
      (unattached : (m.slot i).state.handle? = none) :
      Does m (.asks id i)
        ((m.publish i .attaching).setOperation id (.ensure i (.attempting .opening)))
  | backsOff (id : OperationId) (i : SlotId) (here : m.operation? id = some (.reattach i .inLine))
      (turn : (m.slot i).attachLine.hasTurn id = true) (lost : (m.slot i).state = .reattaching) :
      Does m (.backsOff id i) (m.setOperation id (.reattach i .backoff))
  | asksAgain (id : OperationId) (i : SlotId)
      (here : m.operation? id = some (.reattach i .backoff)) :
      Does m (.asksAgain id i) (m.setOperation id (.reattach i (.attempting .opening)))
  | proceeds (id : OperationId) (i : SlotId) (purpose : Manager.Purpose)
      (before after : Attempt)
      (here : m.operation? id = some (purpose.operation i (.attempting before))) :
      Does m (.proceeds id i) (m.setOperation id (purpose.operation i (.attempting after)))
  | succeeds (id : OperationId) (i : SlotId) (purpose : Manager.Purpose) (attempt : Attempt)
      (session : String)
      (here : m.operation? id = some (purpose.operation i (.attempting attempt))) :
      Does m (.succeeds id i purpose (m.granted i session)) (m.succeed purpose i id session).1
  | fails (id : OperationId) (i : SlotId) (purpose : Manager.Purpose) (attempt : Attempt)
      (error : PageError)
      (here : m.operation? id = some (purpose.operation i (.attempting attempt))) :
      Does m (.fails id i purpose) (m.conclude purpose i id (.error error)).1
  | clears (id : OperationId) (i : SlotId) (handle : SessionHandle)
      (here : m.operation? id = some (.detach i .inLine))
      (turn : (m.slot i).attachLine.hasTurn id = true)
      (attached : (m.slot i).state = .attached handle) :
      Does m (.clears id i) ((m.publish i .detached).setOperation id (.detach i .detaching))
  | idles (id : OperationId) (i : SlotId) (here : m.operation? id = some (.detach i .inLine))
      (turn : (m.slot i).attachLine.hasTurn id = true)
      (unattached : (m.slot i).state.handle? = none) :
      Does m (.idles id i) (((m.publish i .detached).leaveAttachLine i id).finish id)
  | leaves (id : OperationId) (operation : Operation) (stage : Stage)
      (here : m.operation? id = some operation) (lined : operation.stage? = some stage) :
      Does m (.leaves id operation) ((m.leaveAttachLine operation.slot id).finish id)
  | queues (i : SlotId) (known : (m.slot i).known = true) :
      Does m (.queues m.nextOperation i) ((m.begin (.acquire i)).1.updateSlot i fun slot =>
        { slot with scriptLine := slot.scriptLine.join m.nextOperation })
  | takesLease (id : OperationId) (i : SlotId) (here : m.operation? id = some (.acquire i))
      (turn : (m.slot i).scriptLine.hasTurn id = true) :
      Does m (.takesLease id i) (m.updateSlot i fun slot => { slot with running := true })
  | leavesScripts (id : OperationId) (i : SlotId) (here : m.operation? id = some (.acquire i)) :
      Does m (.leavesScripts id i) (m.leaveScripts i id)
  | loses (i : SlotId) (handle : SessionHandle) (known : (m.slot i).known = true)
      (running : (m.slot i).running = true) (attached : (m.slot i).state = .attached handle) :
      Does m (.loses m.nextOperation i handle)
        (((m.publish i .reattaching).begin (.reattach i .fresh)).1.wake [m.nextOperation])
  | watches (i : SlotId) (stale : SessionHandle) (deadline : Nat)
      (inside : i < m.slots.length) :
      Does m (.watches m.nextOperation i stale deadline) (m.begin (.recover i stale deadline)).1
  | ceases (id : OperationId) (i : SlotId) (stale : SessionHandle) (deadline : Nat)
      (here : m.operation? id = some (.recover i stale deadline)) :
      Does m (.ceases id i) (m.finish id)
  | drops (i : SlotId) (handle : SessionHandle) (known : (m.slot i).known = true)
      (attached : (m.slot i).state = .attached handle) :
      Does m (.drops i handle) (m.publish i .detached)
  | closes (i : SlotId) (known : (m.slot i).known = true) : Does m (.closes i) (m.noticeClose i)

/-- One deed after the other. -/
inductive Deeds : Manager → List Deed → Manager → Prop
  | none (m : Manager) : Deeds m [] m
  | next {m middle after : Manager} {deed : Deed} {rest : List Deed} (first : Does m deed middle)
      (further : Deeds middle rest after) : Deeds m (deed :: rest) after

namespace Deeds

theorem one {m after : Manager} {deed : Deed} (does : Does m deed after) :
    Deeds m [deed] after := .next does (.none after)

theorem append {m middle after : Manager} {early late : List Deed} (first : Deeds m early middle)
    (further : Deeds middle late after) : Deeds m (early ++ late) after := by
  induction first with
  | none m => exact further
  | next does _ induction => exact .next does (induction further)

/-- What every deed keeps, all of them keep. -/
theorem invariant {property : Manager → Prop}
    (keeps : ∀ m deed after, Does m deed after → property m → property after)
    {m after : Manager} {deeds : List Deed} (done : Deeds m deeds after) (holds : property m) :
    property after := by
  induction done with
  | none m => exact holds
  | next does _ induction => exact induction (keeps _ _ _ does holds)

end Deeds

end BrowserScript.Session

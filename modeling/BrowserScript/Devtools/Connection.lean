import BrowserScript.Devtools.Message

/-!
# The connection

The client's end of a connection: the commands that wait for their answer, and the sessions it has
attached. Every step says, in order, which commands are completed and which events are announced.
Main definitions: `Connection.call`, `Connection.receive`, `Connection.disconnect`.
-/

namespace BrowserScript.Devtools

abbrev CallId := UInt64

/-- A command that waits for its answer. -/
structure Waiting where
  id : CallId
  session : Option String
  deriving DecidableEq, Repr

structure Connection where
  nextCall : CallId
  waiting : List Waiting
  /-- Attached sessions with their targets. -/
  sessions : List (String × String)
  isOpen : Bool
  deriving Repr

/-- What a step brings about. -/
inductive Notice where
  | completed (call : CallId) (result : Except PageError Json)
  | event (event : SessionEvent)

namespace Connection

def fresh : Connection := ⟨1, [], [], true⟩

/-- A new command. -/
def call (c : Connection) (session : Option String) : Connection × CallId :=
  ({ c with
    nextCall := c.nextCall + 1
    waiting := c.waiting ++ [⟨c.nextCall, session⟩] }, c.nextCall)

/-- Waits no longer for an answer. -/
def withdraw (c : Connection) (id : CallId) : Connection :=
  { c with waiting := c.waiting.filter fun call => call.id != id }

/-- A session has been attached. -/
def register (c : Connection) (session target : String) : Connection :=
  { c with sessions := (c.sessions.filter fun entry => entry.1 != session) ++ [(session, target)] }

/-- A session is about to be detached on purpose, so its loss is not announced. -/
def unregister (c : Connection) (session : String) : Connection :=
  { c with sessions := c.sessions.filter fun entry => entry.1 != session }

/-- Fails all commands to a session. -/
def failSession (c : Connection) (session : String) : Connection × List Notice :=
  let (lost, kept) := c.waiting.partition fun call => call.session == some session
  ({ c with waiting := kept },
    lost.map fun call => .completed call.id (.error (.sessionDetached session)))

/-- A session is lost: its commands fail, and it is announced if it was attached. -/
def sessionGone (c : Connection) (session reason : String) : Connection × List Notice :=
  let target := c.sessions.lookup session
  let (c, failed) := (c.unregister session).failSession session
  (c, failed ++ (target.map fun target =>
    Notice.event (.detached target session reason)).toList)

/-- The sessions of a target. -/
def sessionsOf (c : Connection) (target : String) : List String :=
  (c.sessions.filter fun entry => entry.2 == target).map Prod.fst

def sessionsGone (reason : String) : List String → Connection → Connection × List Notice
  | [], c => (c, [])
  | session :: rest, c =>
    let (c, notices) := c.sessionGone session reason
    let (c, more) := sessionsGone reason rest c
    (c, notices ++ more)

/-- A target is gone: first all its sessions are lost. -/
def targetGone (c : Connection) (target : String) : Connection × List Notice :=
  let (c, notices) := sessionsGone "target destroyed" (c.sessionsOf target) c
  (c, notices ++ [.event (.targetClosed target)])

/-- Takes in an event. -/
def noticeEvent (c : Connection) (method : String) (params : Json) (session : Option String) :
    Connection × List Notice :=
  if method = "Target.detachedFromTarget" then
    match (params.field "sessionId").string? with
    | some lost => c.sessionGone lost "detached from target"
    | none => (c, [])
  else if method = "Inspector.detached" then
    match session with
    | some lost => c.sessionGone lost ((params.field "reason").string?.getD "inspector detached")
    | none => (c, [])
  else if method = "Target.targetCrashed" then
    match (params.field "targetId").string? with
    | some target => sessionsGone "target crashed" (c.sessionsOf target) c
    | none => (c, [])
  else if method = "Target.targetDestroyed" then
    match (params.field "targetId").string? with
    | some target => c.targetGone target
    | none => (c, [])
  else (c, [])

/-- Takes in a message: an answer if it has a number, else an event if it names one. -/
def noticeMessage (c : Connection) (message : Message) : Connection × List Notice :=
  match message.id with
  | some id =>
    match c.waiting.find? fun call => call.id == id with
    | some call => (c.withdraw id, [.completed id (message.outcome call.session)])
    | none => (c, [])
  | none =>
    match message.method with
    | some method => c.noticeEvent method message.params message.session
    | none => (c, [])

/-- Takes in a text; what is not a message is passed over. -/
def receive (c : Connection) (text : String) : Connection × List Notice :=
  match Message.decoder.readText text with
  | .ok message => c.noticeMessage message
  | .error _ => (c, [])

/-- The connection is gone, and with it all commands and sessions. -/
def disconnect (c : Connection) : Connection × List Notice :=
  ({ c with waiting := [], sessions := [], isOpen := false },
    (c.waiting.map fun call => .completed call.id (.error .connectionClosed)) ++
      (c.sessions.map fun entry => .event (.detached entry.2 entry.1 "connection closed")) ++
      [.event .disconnected])

end Connection

end BrowserScript.Devtools

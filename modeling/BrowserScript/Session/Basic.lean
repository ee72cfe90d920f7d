/-!
# Sessions

A session is a live attachment to a target, and a handle to it says which attachment it is. Of every
target there is one state, which all users of the target see.
-/

namespace BrowserScript

structure SessionHandle where
  targetId : String
  sessionId : String
  /-- Whether the session stays when a script has ended. -/
  keepAlive : Bool
  /-- Counts attachments; a later attachment has a greater one. -/
  generation : Nat
  deriving DecidableEq, Repr, Inhabited

inductive SessionState where
  | detached
  | attaching
  | attached (handle : SessionHandle)
  /-- The session was lost under a script and is being replaced. -/
  | reattaching
  deriving DecidableEq, Repr, Inhabited

namespace SessionState

def handle? : SessionState → Option SessionHandle
  | attached handle => some handle
  | _ => none

/-- Attached with the given session. -/
def isOn (state : SessionState) (session : String) : Bool :=
  match state with
  | attached handle => handle.sessionId == session
  | _ => false

end SessionState

end BrowserScript

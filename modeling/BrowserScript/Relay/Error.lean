import BrowserScript.Run.Outcome

/-!
# Relay errors

Why a request through the relay was not answered by the worker.
-/

namespace BrowserScript

inductive RelayError where
  | timeout
  | disconnected
  | invalidCommand (reason : String)
  | closed
  deriving DecidableEq, Repr

namespace RelayError

def message : RelayError → String
  | timeout => "request timed out"
  | disconnected => "worker link disconnected"
  | invalidCommand reason => s!"invalid command: {reason}"
  | closed => "relay closed"

def code : RelayError → ResultCode
  | timeout => .relayTimeout
  | disconnected | closed => .relayDisconnected
  | invalidCommand _ => .invalidCommand

end RelayError

end BrowserScript

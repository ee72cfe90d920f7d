import BrowserScript.Program
import BrowserScript.Page.Call
import BrowserScript.Run.Outcome
import BrowserScript.Session.Basic

/-!
# Requests of a run

What a script asks of its surroundings while it runs: the page, the clock, its session, and whether
it is still wanted.
-/

namespace BrowserScript

namespace Run

inductive Request where
  | page (session : String) (call : PageCall)
  /-- The time in milliseconds. -/
  | now
  | sleep (ms : Nat)
  | isCancelled
  | progress (event : ProgressEvent)
  /-- A newer session in place of one that went away. -/
  | recover (stale : SessionHandle)
  /-- Waits until no other script runs on the target. -/
  | acquire (target : String)
  | release (target : String)
  | attach (target : String)
  | detach (target : String)
  deriving DecidableEq, Repr

def Request.Answer : Request → Type
  | page _ _ => Except PageError Json
  | now => Nat
  | sleep _ => Unit
  | isCancelled => Bool
  | progress _ => Unit
  | recover _ => Option SessionHandle
  | acquire _ => Unit
  | release _ => Unit
  | attach _ => Except PageError SessionHandle
  | detach _ => Except PageError Unit

end Run

abbrev RunProgram (α : Type) : Type := Program Run.Request Run.Request.Answer α

namespace Run

def page (session : String) (call : PageCall) : RunProgram (Except PageError Json) :=
  Program.request (Request.page session call)

def now : RunProgram Nat := Program.request Request.now

def sleep (ms : Nat) : RunProgram Unit := Program.request (Request.sleep ms)

def isCancelled : RunProgram Bool := Program.request Request.isCancelled

def progress (event : ProgressEvent) : RunProgram Unit := Program.request (Request.progress event)

def recover (stale : SessionHandle) : RunProgram (Option SessionHandle) :=
  Program.request (Request.recover stale)

def acquire (target : String) : RunProgram Unit := Program.request (Request.acquire target)

def release (target : String) : RunProgram Unit := Program.request (Request.release target)

def attach (target : String) : RunProgram (Except PageError SessionHandle) :=
  Program.request (Request.attach target)

def detach (target : String) : RunProgram (Except PageError Unit) :=
  Program.request (Request.detach target)

end Run

end BrowserScript

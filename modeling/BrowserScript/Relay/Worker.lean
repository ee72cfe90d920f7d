import BrowserScript.Relay.Command
import BrowserScript.Relay.Registry
import BrowserScript.Run.Script

/-!
# The worker

The worker answers commands: it runs scripts out of a store, and finds out which script a piece of
free text means. Every command gets exactly one reply. Main definition: `Worker.handle`.
-/

namespace BrowserScript

namespace Worker

/-- What the worker asks of its surroundings. -/
inductive Request where
  | run (request : Run.Request)
  | load (scriptId : String)
  | classify (text : String)
  | register (scriptId : String)
  | unregister (scriptId : String) (flag : Relay.FlagId)
  | isCancelled (flag : Relay.FlagId)
  | cancel (scriptId : String)
  deriving DecidableEq, Repr

def Request.Answer : Request → Type
  | run request => request.Answer
  | load _ => Except LoadError Script
  | classify _ => Option IntentMatch
  | register _ => Relay.FlagId
  | unregister _ _ => Unit
  | isCancelled _ => Bool
  | cancel _ => Bool

end Worker

abbrev WorkerProgram (α : Type) : Type := Program Worker.Request Worker.Request.Answer α

namespace Worker

structure Config where
  settings : Settings
  /-- The target of commands that name none. -/
  defaultTarget : Option String
  /-- Free text can be classified. -/
  hasClassifier : Bool

/-- The requests of a run whose cancel flag is known. -/
def underFlag (flag : Relay.FlagId) :
    (request : Run.Request) → WorkerProgram request.Answer
  | .isCancelled => Program.request (Request.isCancelled flag)
  | request => Program.request (Request.run request)

def load (scriptId : String) : WorkerProgram (Except LoadError Script) :=
  Program.request (Request.load scriptId)

def classify (text : String) : WorkerProgram (Option IntentMatch) :=
  Program.request (Request.classify text)

def register (scriptId : String) : WorkerProgram Relay.FlagId :=
  Program.request (Request.register scriptId)

def unregister (scriptId : String) (flag : Relay.FlagId) : WorkerProgram Unit :=
  Program.request (Request.unregister scriptId flag)

def cancel (scriptId : String) : WorkerProgram Bool := Program.request (Request.cancel scriptId)

def attach (target : String) : WorkerProgram (Except PageError SessionHandle) :=
  Program.request (Request.run (.attach target))

def detach (target : String) : WorkerProgram (Except PageError Unit) :=
  Program.request (Request.run (.detach target))

/-- Runs a script; it can be cancelled from the moment it is loaded until it has ended. -/
def runScript (config : Config) (scriptId : String) (parameters : Variables)
    (target : Option String) (detachAfter : Bool) : WorkerProgram Reply :=
  match target.or config.defaultTarget with
  | none => return .failed .invalidCommand "no target given"
  | some target => do
    match ← load scriptId with
    | .error error => return .failed .invalidCommand error.message
    | .ok script =>
      let flag ← register scriptId
      let result ← (Run.script config.settings script parameters ⟨target, detachAfter⟩).interpret
        (underFlag flag)
      unregister scriptId flag
      return .execution result

/-- Runs the script that a text means. -/
def processIntent (config : Config) (text : String) (target : Option String) :
    WorkerProgram Reply :=
  if config.hasClassifier then do
    match ← classify text with
    | none => return .noMatch text
    | some intent =>
      match intent.scriptReference with
      | some scriptId => runScript config scriptId intent.parameters target false
      | none => return .intent intent
  else return .failed .invalidCommand "no intent classifier configured"

/-- Answers a command. -/
def handle (config : Config) : Command → WorkerProgram Reply
  | .runScript scriptId parameters target detachAfter =>
    runScript config scriptId parameters target detachAfter
  | .processIntent text target => processIntent config text target
  | .attach target => do
    match ← attach target with
    | .ok handle => return .attached handle.targetId handle.sessionId handle.generation.toUInt64
    | .error error => return .failed .sessionLost error.message
  | .detach target => do
    match ← detach target with
    | .ok () => return .detached target
    | .error error => return .failed .sessionLost error.message
  | .cancel scriptId => return .cancelled scriptId (← cancel scriptId)

end Worker

end BrowserScript

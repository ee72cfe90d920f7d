import BrowserScript.Run.Outcome

/-!
# Commands and replies

What a caller can ask of the worker, what the worker answers, and the written form of both: an
object whose member `type` names the kind.
-/

namespace BrowserScript

/-- What a classifier made of a piece of free text. -/
structure IntentMatch where
  category : String
  parameters : Variables
  /-- The script to run, if the intent maps to one. -/
  scriptReference : Option String
  deriving DecidableEq, Repr

namespace IntentMatch

open Json in
def decoder : Decoder IntentMatch :=
  .record "struct IntentMatch"
    (Fields.done IntentMatch.mk
      |>.and (.required "category" .string)
      |>.and (.orDefault "parameters" Variables.decoder Variables.empty)
      |>.and (.optional "scriptReference" .string))

def members (intent : IntentMatch) : List (String × Json) :=
  [("category", .str intent.category), ("parameters", intent.parameters.toJson),
    ("scriptReference", .ofOption .str intent.scriptReference)]

def toJson (intent : IntentMatch) : Json := .ofMembers intent.members

end IntentMatch

inductive Command where
  | runScript (scriptId : String) (parameters : Variables) (target : Option String) (detachAfter : Bool)
  | processIntent (text : String) (target : Option String)
  | attach (target : String)
  | detach (target : String)
  | cancel (scriptId : String)
  deriving DecidableEq, Repr

namespace Command

def name : Command → String
  | runScript _ _ _ _ => "runScript"
  | processIntent _ _ => "processIntent"
  | attach _ => "attach"
  | detach _ => "detach"
  | cancel _ => "cancel"

open Json in
def decoder : Decoder Command :=
  .tagged "Command" "type"
    [("runScript", .record "struct variant Command::RunScript"
        (Fields.done runScript
          |>.and (.required "scriptId" .string)
          |>.and (.orDefault "parameters" Variables.decoder Variables.empty)
          |>.and (.orDefault "target" (.optional .string) none)
          |>.and (.orDefault "detach" .bool false))),
      ("processIntent", .record "struct variant Command::ProcessIntent"
        (Fields.done processIntent
          |>.and (.required "text" .string)
          |>.and (.orDefault "target" (.optional .string) none))),
      ("attach", .record "struct variant Command::Attach"
        (Fields.done attach |>.and (.required "target" .string))),
      ("detach", .record "struct variant Command::Detach"
        (Fields.done detach |>.and (.required "target" .string))),
      ("cancel", .record "struct variant Command::Cancel"
        (Fields.done cancel |>.and (.required "scriptId" .string)))]

def toJson (command : Command) : Json :=
  .ofMembers (("type", .str command.name) :: match command with
    | runScript scriptId parameters target detachAfter =>
      [("scriptId", .str scriptId), ("parameters", parameters.toJson),
        ("target", .ofOption .str target), ("detach", .bool detachAfter)]
    | processIntent text target => [("text", .str text), ("target", .ofOption .str target)]
    | attach target | detach target => [("target", .str target)]
    | cancel scriptId => [("scriptId", .str scriptId)])

end Command

inductive Reply where
  | execution (result : RunResult)
  | attached (targetId sessionId : String) (generation : UInt64)
  | detached (targetId : String)
  | cancelled (scriptId : String) (found : Bool)
  /-- The text was understood but names no script. -/
  | intent (found : IntentMatch)
  | noMatch (text : String)
  /-- The worker could not act on the command. -/
  | failed (code : ResultCode) (error : String)
  deriving DecidableEq, Repr

namespace Reply

def name : Reply → String
  | execution _ => "execution"
  | attached _ _ _ => "attached"
  | detached _ => "detached"
  | cancelled _ _ => "cancelled"
  | intent _ => "intent"
  | noMatch _ => "noMatch"
  | failed _ _ => "failed"

open Json in
def decoder : Decoder Reply :=
  .tagged "Reply" "type"
    [("execution", RunResult.decoder.map execution),
      ("attached", .record "struct variant Reply::Attached"
        (Fields.done attached
          |>.and (.required "targetId" .string)
          |>.and (.required "sessionId" .string)
          |>.and (.required "generation" .uint64))),
      ("detached", .record "struct variant Reply::Detached"
        (Fields.done detached |>.and (.required "targetId" .string))),
      ("cancelled", .record "struct variant Reply::Cancelled"
        (Fields.done cancelled
          |>.and (.required "scriptId" .string)
          |>.and (.required "found" .bool))),
      ("intent", IntentMatch.decoder.map intent),
      ("noMatch", .record "struct variant Reply::NoMatch"
        (Fields.done noMatch |>.and (.required "text" .string))),
      ("failed", .record "struct variant Reply::Failed"
        (Fields.done failed
          |>.and (.required "code" ResultCode.decoder)
          |>.and (.required "error" .string)))]

def members : Reply → List (String × Json)
  | execution result => result.members
  | attached targetId sessionId generation =>
    [("targetId", .str targetId), ("sessionId", .str sessionId),
      ("generation", .ofNat generation.toNat)]
  | detached targetId => [("targetId", .str targetId)]
  | cancelled scriptId found => [("scriptId", .str scriptId), ("found", .bool found)]
  | intent found => found.members
  | noMatch text => [("text", .str text)]
  | failed code error => [("code", .str code.name), ("error", .str error)]

def toJson (reply : Reply) : Json := .ofMembers (("type", .str reply.name) :: reply.members)

end Reply

end BrowserScript

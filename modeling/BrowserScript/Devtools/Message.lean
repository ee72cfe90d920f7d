import BrowserScript.Page.Call

/-!
# Messages of the remote-debugging protocol

A command goes out with a number; its answer comes back under the same number, with a result or an
error. Messages without a number are events. Commands to a page carry the session they are meant
for.
-/

namespace BrowserScript.Devtools

/-- A command as it is sent. -/
structure Command where
  id : UInt64
  method : String
  params : Option Json
  session : Option String
  deriving DecidableEq, Repr

def Command.toJson (command : Command) : Json :=
  .ofMembers ([("id", Json.ofNat command.id.toNat), ("method", .str command.method)] ++
    (command.params.map fun params => ("params", params)).toList ++
    (command.session.map fun session => ("sessionId", Json.str session)).toList)

structure ErrorBody where
  code : Int64
  message : String
  deriving DecidableEq, Repr

structure Message where
  id : Option UInt64
  result : Option Json
  error : Option ErrorBody
  method : Option String
  params : Json
  session : Option String
  deriving DecidableEq, Repr

open Json in
def ErrorBody.decoder : Decoder ErrorBody :=
  .record "struct CdpErrorBody"
    (Fields.done ErrorBody.mk
      |>.and (.required "code" .int64)
      |>.and (.required "message" .string))

open Json in
def Message.decoder : Decoder Message :=
  .record "struct CdpMessage"
    (Fields.done Message.mk
      |>.and (.optional "id" .uint64)
      |>.and (.optional "result" .any)
      |>.and (.optional "error" ErrorBody.decoder)
      |>.and (.optional "method" .string)
      |>.and (.orDefault "params" .any .null)
      |>.and (.optional "sessionId" .string))

/-- The error code of a command to a session that does not exist. -/
def sessionNotFound : Int64 := -32001

/-- How a command to the given session ends that is answered by a message. -/
def Message.outcome (message : Message) (session : Option String) : Except PageError Json :=
  match message.error with
  | some error =>
    if error.code = sessionNotFound then .error (.sessionDetached (session.getD ""))
    else .error (.refused error.code error.message)
  | none => .ok (message.result.getD .null)

/-- A page the browser offers. -/
structure TargetInfo where
  targetId : String
  type : String
  title : String
  url : String
  deriving DecidableEq, Repr

namespace TargetInfo

open Json in
def decoder : Decoder TargetInfo :=
  .record "struct TargetInfo"
    (Fields.done TargetInfo.mk
      |>.and (.required "targetId" .string)
      |>.and (.required "type" .string)
      |>.and (.orDefault "title" .string "")
      |>.and (.orDefault "url" .string ""))

end TargetInfo

/-- What the browser says of itself when it is asked where to connect. -/
structure Version where
  browser : String
  socketUrl : String
  deriving DecidableEq, Repr

namespace Version

open Json in
def decoder : Decoder Version :=
  .record "struct BrowserVersion"
    (Fields.done Version.mk
      |>.and (.orDefault "Browser" .string "")
      |>.and (.required "webSocketDebuggerUrl" .string))

end Version

end BrowserScript.Devtools

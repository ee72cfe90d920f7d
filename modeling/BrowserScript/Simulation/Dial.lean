import BrowserScript.Devtools.ChannelAddress
import BrowserScript.Devtools.Endpoint
import BrowserScript.Devtools.WebAddress
import BrowserScript.Simulation.Errand

/-!
# Connecting

How a client comes to a connection with the scripted server of a simulation. The server is the only
host there is. Main definition: `connect`.
-/

namespace BrowserScript.Simulation

open Devtools (ChannelAddress WebAddress)

/-- The name of the host that the server runs on. -/
def serverHost : String := "$HOST"

/-- The address of the control channel of the server. -/
def serverChannel : String := s!"ws://{serverHost}/devtools"

/-- Whether the server can be reached under the address of a control channel. -/
def reaches (address : String) : Bool :=
  (ChannelAddress.ofText address).any fun address => address.host == serverHost

/-- What the server answers when it is asked for its version. -/
structure VersionReply where
  status : Nat
  body : String
  deriving DecidableEq, Repr

/-- The body as it arrives. A status that only announces another reply, or that has not three
digits, is no answer; some answers have no body, whatever is sent with them. -/
def VersionReply.content? (reply : VersionReply) : Option String :=
  if reply.status < 200 || 999 < reply.status then none
  else if reply.status = 204 || reply.status = 304 then some ""
  else some reply.body

/-- The address of the control channel that a reply names. -/
def VersionReply.channel? (reply : VersionReply) : Option String := do
  let content ← reply.content?
  let version ← (Devtools.Version.decoder.readText content).toOption
  return version.socketUrl

/-- What the server is asked when its version is wanted; it hangs up on any other question. -/
def asksForVersion (resource : String) : Bool := resource.endsWith "/json/version"

/-- The address of the control channel that an endpoint leads to, and what the server is asked on
the way. -/
def locate (version : VersionReply) : Devtools.Endpoint → List String × Option String
  | .channel address => ([], some address)
  | .version address =>
    match WebAddress.ofText address with
    | none => ([], none)
    | some address =>
      let answered := address.scheme = "http" && address.host = serverHost &&
        asksForVersion address.resource
      if answered then ([s!"GET {address.resource} HTTP/1.1"], version.channel?) else ([], none)

/-- A world whose client is connected to the server. -/
def World.ofServer (server : Server) : World :=
  ((World.initial (.channel ⟨.fresh, server, [], []⟩)).spawn .receive).1

/-- What the server has been sent, in order. -/
def World.requests (w : World) : List Json :=
  match w.client with
  | .channel channel => channel.server.requests.reverse
  | .browser _ _ => []

inductive Connected where
  | to (address : String)
  | failed (error : PageError)
  /-- Nothing came of it in time. -/
  | blocked

/-- Connects to an endpoint and greets the browser there, within the time limit. -/
def connect (server : Server) (version : VersionReply) (endpoint : String) (limit : Nat) :
    World × Connected :=
  let (asked, address) := locate version (.ofText endpoint)
  let w := World.ofServer { server with
    requests := (asked.map fun line => .obj [("http", .str line)]) ++ server.requests }
  match address.filter reaches with
  | none => (w, .failed (.connectionFailed endpoint))
  | some address =>
    let (w, id) := w.sendOut 0 none false {} (.client .greet)
    let w := w.waitFor (World.isOver id) limit
    match w.result? id with
    | some (_, .called (.error error)) => (w.remove id, .failed error)
    | some _ => (w.remove id, .to address)
    | none => (w.drop id, .blocked)

end BrowserScript.Simulation

/-!
# Endpoints

An endpoint says where a browser is: by the address of its control channel, or by the address of its
web server, which can be asked for the former.
-/

namespace BrowserScript.Devtools

inductive Endpoint where
  | channel (address : String)
  /-- Here the address of the control channel is asked for. -/
  | version (address : String)
  deriving DecidableEq, Repr

namespace Endpoint

/-- A text without the slashes at its end. -/
def withoutSlashes (text : String) : String :=
  String.ofList (text.toList.reverse.dropWhile (· = '/')).reverse

def ofText (text : String) : Endpoint :=
  if text.startsWith "ws://" || text.startsWith "wss://" then channel text
  else version (withoutSlashes text ++ "/json/version")

end Endpoint

end BrowserScript.Devtools

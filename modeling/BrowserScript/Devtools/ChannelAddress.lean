/-!
# Channel addresses

The address of a control channel, as a program passes it on: nothing in it is put right, and a
character that cannot stand in its part makes the address useless. Main definition:
`ChannelAddress.ofText`.
-/

namespace BrowserScript.Devtools

structure ChannelAddress where
  /-- The host and its port, without the name of a user. -/
  host : String
  /-- What the server is asked for. -/
  resource : String
  deriving DecidableEq, Repr

namespace ChannelAddress

def isHostChar (c : Char) : Bool :=
  c.isAlphanum ||
    ['!', '$', '&', '\'', '(', ')', '*', '+', ',', '-', '.', ':', ';', '=', '@', '[', ']', '_',
      '~'].contains c

/-- A visible ASCII character that is not excluded, or any character beyond ASCII. -/
def isSent (excluded : List Char) (c : Char) : Bool :=
  127 < c.toNat || (32 < c.toNat && c.toNat < 127 && !excluded.contains c)

def isPathChar (c : Char) : Bool := isSent ['#', '<', '>', '?', '`'] c

def isQueryChar (c : Char) : Bool := isSent ['"', '#', '<', '>'] c

/-- What has been met in the name of a user. -/
structure UserState where
  colons : Nat
  percent : Bool
  opened : Bool
  closed : Bool

/-- So many colons may stand between two marks that end a part of the name. -/
def colonLimit : Nat := 8

/-- Whether the name of a user is sound: colons are few, and brackets come as one pair, not behind
a percent sign. -/
def isUser (state : UserState) : List Char → Bool
  | [] => state.opened == state.closed
  | ':' :: rest => state.colons < colonLimit && isUser { state with colons := state.colons + 1 } rest
  | '@' :: rest => isUser { state with colons := 0, percent := false } rest
  | '%' :: rest => isUser { state with percent := true } rest
  | '[' :: rest => !state.percent && !state.opened && isUser { state with opened := true } rest
  | ']' :: rest =>
    state.opened && !state.closed &&
      isUser { state with colons := 0, percent := false, closed := true } rest
  | c :: rest => isHostChar c && isUser state rest

/-- Reads the address of a channel. The path may be left out, but not in front of a query; a
fragment is dropped. -/
def ofText (text : String) : Option ChannelAddress :=
  if !text.startsWith "ws://" then none
  else
    let cs := text.toList.drop 5
    let authority := cs.takeWhile fun c => !(c = '/' || c = '?' || c = '#')
    let host := (authority.reverse.takeWhile (· != '@')).reverse
    let user := authority.take (authority.length - host.length)
    let resource := (cs.drop authority.length).takeWhile (· != '#')
    let path := resource.takeWhile (· != '?')
    let query := resource.drop (path.length + 1)
    let sound := !host.isEmpty && host.all isHostChar && isUser ⟨0, false, false, false⟩ user &&
      path.all isPathChar && query.all isQueryChar && resource.head? != some '?'
    if sound then
      some ⟨String.ofList host, String.ofList (if resource.isEmpty then ['/'] else resource)⟩
    else none

end ChannelAddress

end BrowserScript.Devtools

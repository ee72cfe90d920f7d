/-!
# Cancel flags

A run can be told to stop through a flag. The registry knows, for every script id, the flags of the
runs of that id that are under way.
-/

namespace BrowserScript.Relay

abbrev FlagId := Nat

structure Registry where
  nextFlag : FlagId
  /-- Flags that have been set. -/
  cancelled : List FlagId
  /-- The flags of the runs under way, by script id; no list is empty. -/
  running : List (String × List FlagId)
  deriving DecidableEq, Repr, Inhabited

namespace Registry

def empty : Registry := ⟨0, [], []⟩

def isCancelled (r : Registry) (flag : FlagId) : Bool := r.cancelled.contains flag

def newFlag (r : Registry) : Registry × FlagId :=
  ({ r with nextFlag := r.nextFlag + 1 }, r.nextFlag)

def set (r : Registry) (flag : FlagId) : Registry := { r with cancelled := flag :: r.cancelled }

/-- The flags of the runs of a script id. -/
def flagsOf (r : Registry) (scriptId : String) : List FlagId :=
  (r.running.lookup scriptId).getD []

/-- Adds a flag to the list of a script id. -/
def enter (scriptId : String) (flag : FlagId) :
    List (String × List FlagId) → List (String × List FlagId)
  | [] => [(scriptId, [flag])]
  | (id, flags) :: rest =>
    if id = scriptId then (id, flags ++ [flag]) :: rest else (id, flags) :: enter scriptId flag rest

/-- Takes a flag out of the list of a script id; a list that becomes empty goes too. -/
def leave (scriptId : String) (flag : FlagId) :
    List (String × List FlagId) → List (String × List FlagId)
  | [] => []
  | (id, flags) :: rest =>
    if id = scriptId then
      match flags.filter fun other => other != flag with
      | [] => rest
      | left => (id, left) :: rest
    else (id, flags) :: leave scriptId flag rest

/-- A new run of a script begins. -/
def register (r : Registry) (scriptId : String) : Registry × FlagId :=
  let (r, flag) := r.newFlag
  ({ r with running := enter scriptId flag r.running }, flag)

/-- A run has ended. -/
def unregister (r : Registry) (scriptId : String) (flag : FlagId) : Registry :=
  { r with running := leave scriptId flag r.running }

/-- Sets the flags of all runs of a script id; says whether there are any. -/
def cancel (r : Registry) (scriptId : String) : Registry × Bool :=
  match r.running.lookup scriptId with
  | some flags => ({ r with cancelled := flags ++ r.cancelled }, true)
  | none => (r, false)

end Registry

end BrowserScript.Relay

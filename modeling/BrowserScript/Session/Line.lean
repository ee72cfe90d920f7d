/-!
# Lines

A line of those who want something that one can have at a time. The first has it; whoever leaves
lets the next one move up.
-/

namespace BrowserScript.Session

/-- Identifies an operation on sessions. -/
abbrev OperationId := Nat

abbrev Line := List OperationId

namespace Line

/-- Whether an operation has what the line is for. -/
def hasTurn (line : Line) (id : OperationId) : Bool := line.head? == some id

def join (line : Line) (id : OperationId) : Line := line ++ [id]

def leave (line : Line) (id : OperationId) : Line := line.erase id

/-- The operation whose turn comes when another leaves. -/
def next? (line : Line) (id : OperationId) : Option OperationId :=
  if hasTurn line id then (leave line id).head? else none

end Line

end BrowserScript.Session

import BrowserScript.Page.Basic
import BrowserScript.Page.Functions

/-!
# Page calls

What a session can be asked to do in its page. Every call is answered with a value, `null` where
there is nothing to say, or with an error.
-/

namespace BrowserScript

inductive PageCall where
  | evaluate (expression : String)
  /-- Calls a function, given by its source, with one argument. -/
  | apply (function : String) (argument : Json)
  | input (event : InputEvent)
  | navigate (url : String)
  | resize (viewport : Viewport)
  deriving DecidableEq, Repr

namespace Page

/-- The expression that applies a function to an argument. -/
def application (function : String) (argument : Json) : String :=
  s!"({function})({argument.text})"

/-- Whether a ready state lets a script go on. -/
def isReady : Json → Bool
  | .str state => state == "interactive" || state == "complete"
  | _ => false

/-- The input of a click: move there, then press and release, counting up. -/
def clickInput (x y : Binary64) (button : MouseButton) (clickCount : UInt32) : List InputEvent :=
  .mouseMove x y :: (List.range (max clickCount.toNat 1)).flatMap fun i =>
    let count := (i + 1).toUInt32
    [.mouseDown x y button count, .mouseUp x y button count]

end Page

end BrowserScript

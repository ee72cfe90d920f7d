import BrowserScript.Script.Step

/-!
# Pages

What passes between a script and a page: the input sent to it, where its elements lie, and how a
request can fail.
-/

namespace BrowserScript

/-- A rectangle in the coordinates of the viewport. -/
structure Box where
  x : Binary64
  y : Binary64
  width : Binary64
  height : Binary64
  deriving DecidableEq, Repr

namespace Box

def zero : Box := ⟨.zero, .zero, .zero, .zero⟩

instance : Inhabited Box := ⟨zero⟩

def center (box : Box) : Binary64 × Binary64 :=
  (box.x + box.width.half, box.y + box.height.half)

open Json in
def decoder : Decoder Box :=
  .record "struct BBox"
    (Fields.done Box.mk
      |>.and (.required "x" .float)
      |>.and (.required "y" .float)
      |>.and (.required "width" .float)
      |>.and (.required "height" .float))

def toJson (box : Box) : Json :=
  .ofMembers [("x", .ofBinary64 box.x), ("y", .ofBinary64 box.y),
    ("width", .ofBinary64 box.width), ("height", .ofBinary64 box.height)]

end Box

/-- Low-level input. -/
inductive InputEvent where
  | mouseMove (x y : Binary64)
  | mouseDown (x y : Binary64) (button : MouseButton) (clickCount : UInt32)
  | mouseUp (x y : Binary64) (button : MouseButton) (clickCount : UInt32)
  | keyDown (key : String)
  | keyUp (key : String)
  | insertText (text : String)
  deriving DecidableEq, Repr

/-- The size a page is told it has. -/
structure Viewport where
  width : UInt32
  height : UInt32
  deviceScaleFactor : Binary64
  mobile : Bool
  deriving DecidableEq, Repr

namespace Viewport

open Json in
def decoder : Decoder Viewport :=
  .record "struct Viewport"
    (Fields.done Viewport.mk
      |>.and (.required "width" .uint32)
      |>.and (.required "height" .uint32)
      |>.and (.required "deviceScaleFactor" .float)
      |>.and (.required "mobile" .bool))

def toJson (viewport : Viewport) : Json :=
  .ofMembers [("width", .ofNat viewport.width.toNat), ("height", .ofNat viewport.height.toNat),
    ("deviceScaleFactor", .ofBinary64 viewport.deviceScaleFactor),
    ("mobile", .bool viewport.mobile)]

end Viewport

def ViewportStep.toJson (viewport : ViewportStep) : Json :=
  .ofMembers [("width", .ofNat viewport.width.toNat), ("height", .ofNat viewport.height.toNat),
    ("deviceScaleFactor", .ofBinary64 viewport.deviceScaleFactor),
    ("isMobile", .bool viewport.isMobile)]

/-- Why a request to the browser failed. -/
inductive PageError where
  | connectionFailed (reason : String)
  | transport (reason : String)
  | connectionClosed
  /-- The browser refused a command. -/
  | refused (code : Int64) (reason : String)
  | sessionDetached (session : String)
  | targetNotFound (target : String)
  | evaluation (reason : String)
  | navigation (reason : String)
  | timeout (what : String)
  | unsupported (what : String)
  /-- An answer was not of the expected form. -/
  | unreadable (reason : String)
  | browser (reason : String)
  deriving DecidableEq, Repr

namespace PageError

def message : PageError → String
  | connectionFailed reason => s!"connection failed: {reason}"
  | transport reason => s!"websocket error: {reason}"
  | connectionClosed => "connection closed"
  | refused code reason => s!"CDP error: {reason} (code: {code})"
  | sessionDetached session => s!"session {session} detached"
  | targetNotFound target => s!"target not found: {target}"
  | evaluation reason => s!"evaluation failed: {reason}"
  | navigation reason => s!"navigation failed: {reason}"
  | timeout what => s!"timeout: {what}"
  | unsupported what => s!"{what} is not supported by this backend"
  | unreadable reason => s!"serialization error: {reason}"
  | browser reason => s!"browser error: {reason}"

/-- The session went away underneath the request. -/
def isDetach : PageError → Bool
  | sessionDetached _ | connectionClosed => true
  | _ => false

end PageError

/-- What the browser tells of its own accord. -/
inductive SessionEvent where
  | detached (target session reason : String)
  | targetClosed (target : String)
  /-- The whole control channel dropped. -/
  | disconnected
  deriving DecidableEq, Repr

namespace Json

/-- Whether a page would take the value for true. -/
def isTruthy : Json → Bool
  | null => false
  | bool b => b
  | num n => !n.toBinary64.isZero && !n.toBinary64.isNaN
  | str s => !s.isEmpty
  | arr _ | obj _ => true

end Json

end BrowserScript

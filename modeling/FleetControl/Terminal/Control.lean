import FleetControl.Json.Parser
import FleetControl.Json.Printer
import FleetControl.Json.Reader
import FleetControl.Terminal.Frame
import FleetControl.Text.Utf8

/-!
# Control messages

A caller's text is a control message if it can be read as one: input, a new size of the terminal, or
a ping. Any other text is keystrokes.
-/

namespace FleetControl.Terminal

/-- **A control message.** -/
structure Control where
  kind : String
  /-- Keystrokes of an input. -/
  data : String := ""
  cols : UInt16 := 0
  rows : UInt16 := 0
deriving Repr, DecidableEq, Inhabited

namespace Control

/-- Read a control message. -/
def read : Reader Control :=
  Form.read <| Control.mk <$> .required "type" .text
    <*> .withDefault "data" .text ""
    <*> .withDefault "cols" .u16 0
    <*> .withDefault "rows" .u16 0

/-- A control message as written. -/
def json (c : Control) : Json :=
  .obj [("type", .str c.kind), ("data", .str c.data), ("cols", .int c.cols.toNat),
    ("rows", .int c.rows.toNat)]

/-- The control message that a text is, if it is one. -/
def ofText? (s : String) : Option Control := read.whole? s

/-- The answer to a ping. -/
def pong : Control := { kind := "pong" }

end Control

/-- **What is done for a caller besides passing keystrokes on.** -/
inductive Errand where
  | resize (rows cols : UInt16)
  | pong
deriving Repr, DecidableEq, Inhabited

/-- **What a frame asks for.** -/
inductive Action where
  /-- Bytes for the unit. -/
  | keys (bytes : List UInt8)
  | errand (e : Errand)
  | ignore
  | stop
deriving Repr, DecidableEq, Inhabited

/-- What a control message asks for. -/
def Control.action (c : Control) : Action :=
  match c.kind with
  | "input" => .keys (Text.Utf8.encode c.data)
  | "resize" => .errand (.resize c.rows c.cols)
  | "ping" => .errand .pong
  | _ => .ignore

/-- What a frame asks for. -/
def ClientFrame.action : ClientFrame → Action
  | text s =>
    match Control.ofText? s with
    | some c => c.action
    | none => .keys (Text.Utf8.encode s)
  | binary bytes => .keys bytes
  | close => .stop

end FleetControl.Terminal

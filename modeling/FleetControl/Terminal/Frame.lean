/-!
# Frames of a terminal

What a caller and a terminal exchange, and how it travels in the messages of a web socket.
-/

namespace FleetControl.Terminal

/-- **What a caller sends.** -/
inductive ClientFrame where
  | text (s : String)
  | binary (bytes : List UInt8)
  | close
deriving Repr, DecidableEq, Inhabited

/-- **What a caller is sent**: notices as text, the unit's output as bytes. -/
inductive ServerFrame where
  | text (s : String)
  | binary (bytes : List UInt8)
deriving Repr, DecidableEq, Inhabited

/-- A message of a web socket. -/
inductive Message where
  | text (s : String)
  | binary (bytes : List UInt8)
  | ping (bytes : List UInt8)
  | pong (bytes : List UInt8)
  | close
deriving Repr, DecidableEq, Inhabited

/-- **The frame that a message carries.** Pings and pongs carry none; a message that cannot be
received, `none` here, closes. -/
def ClientFrame.ofMessage : Option Message → Option ClientFrame
  | some (.text s) => some (text s)
  | some (.binary bytes) => some (binary bytes)
  | some (.ping _) | some (.pong _) => none
  | some .close | none => some close

/-- **The message that carries a frame.** -/
def ServerFrame.message : ServerFrame → Message
  | text s => .text s
  | binary bytes => .binary bytes

end FleetControl.Terminal

/-!
# Multiplexed output

An engine sends the output of a container without a terminal in frames: a header of eight bytes, which
are the stream's number, three zeros and the length of the payload, and the payload. `demultiplex`
takes the headers out.
-/

namespace FleetControl.Engine.Multiplex

/-- Length of a header. -/
def headerLength : Nat := 8

/-- **Whether bytes begin with what may be a header.** -/
def isHeader : List UInt8 → Bool
  | stream :: a :: b :: c :: _ :: _ :: _ :: _ :: _ => stream ≤ 2 && a == 0 && b == 0 && c == 0
  | _ => false

/-- The payload length that a header gives. -/
def payloadLength : List UInt8 → Nat
  | _ :: _ :: _ :: _ :: a :: b :: c :: d :: _ =>
    ((a.toNat * 256 + b.toNat) * 256 + c.toNat) * 256 + d.toNat
  | _ => 0

/-- Payloads of frame after frame. What does not begin with a header is taken as it is, and so is a
rest too short for one; the payload of a frame that is cut off is what there is of it. -/
def payloads (bs : List UInt8) : List UInt8 :=
  if _h : headerLength ≤ bs.length then
    if isHeader bs then
      let size := payloadLength bs
      let rest := bs.drop headerLength
      rest.take size ++ payloads (rest.drop size)
    else bs
  else bs
termination_by bs.length
decreasing_by
  simp only [List.length_drop]
  have : headerLength = 8 := rfl
  omega

/-- **Output without headers.** Bytes that do not begin with a header are left as they are. -/
def demultiplex (bs : List UInt8) : List UInt8 := if isHeader bs then payloads bs else bs

end FleetControl.Engine.Multiplex

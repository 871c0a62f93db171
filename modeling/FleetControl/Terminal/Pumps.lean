import FleetControl.Terminal.Control

/-!
# The pumps of a terminal

Two pumps serve a terminal side by side: one takes the caller's frames to the unit, the other takes
the unit's output to the caller. Each works step by step and they share only what is sent to the
caller and the sign to stop, which the first that ends gives to the other. A pump looks for the sign
where it waits for something to do, not while it does something. `Move` lists the steps of the pumps
and what happens around them, so a list of moves is one way that a terminal may go.
-/

namespace FleetControl.Terminal

/-- **How far a pump is.** -/
inductive Phase (α : Type) where
  | waiting
  | doing (a : α)
  | ended
deriving Repr, DecidableEq, Inhabited

/-- The pump has ended. -/
def Phase.hasEnded {α : Type} : Phase α → Bool
  | ended => true
  | _ => false

/-- **The state of both pumps** and what is around them. -/
structure Pumps where
  /-- Frames of the caller that are not taken yet. -/
  frames : List ClientFrame := []
  /-- The caller sends nothing more. -/
  callerEnded : Bool := false
  /-- The caller takes nothing more. -/
  callerDeaf : Bool := false
  /-- Output of the unit that is not taken yet, in the pieces it comes in. -/
  chunks : List (List UInt8) := []
  /-- The unit sends nothing more. -/
  unitEnded : Bool := false
  /-- The unit takes nothing more. -/
  unitDeaf : Bool := false
  /-- What the unit has received. -/
  received : List UInt8 := []
  /-- What the caller was sent. -/
  sent : List ServerFrame := []
  /-- What was done for the caller, or tried. -/
  issued : List Errand := []
  /-- The sign to stop. -/
  isCancelled : Bool := false
  /-- The input's pump. It writes keystrokes, of which these are left, or goes on an errand. -/
  input : Phase Action := .waiting
  /-- The output's pump. It sends what it has read. -/
  output : Phase (List UInt8) := .waiting
deriving Repr, DecidableEq, Inhabited

namespace Pumps

/-- How much output is read at once. -/
def bufferSize : Nat := 32 * 1024

/-- The pump of the input ends, and gives the sign to stop. -/
def endInput (p : Pumps) : Pumps := { p with input := .ended, isCancelled := true }

/-- The pump of the output ends, and gives the sign to stop. -/
def endOutput (p : Pumps) : Pumps := { p with output := .ended, isCancelled := true }

/-- Send to the caller, if the caller listens. -/
def send (p : Pumps) (f : ServerFrame) : Pumps :=
  if p.callerDeaf then p else { p with sent := p.sent ++ [f] }

/-- The errand was tried; the pump waits again, whatever came of it. -/
def issue (p : Pumps) (e : Errand) : Pumps :=
  { p with issued := p.issued ++ [e], input := .waiting }

/-- Go on an errand. -/
def perform (p : Pumps) (e : Errand) : Pumps :=
  match e with
  | .resize .. => p.issue e
  | .pong => (p.issue e).send (.text Control.pong.json.text)

/-- **The next step of the input's pump**: it takes a frame, or finds the end of the frames, or does
what the frame asks for. The pump ends where the unit does not take its bytes. -/
def stepInput (p : Pumps) : Pumps :=
  match p.input with
  | .waiting =>
    match p.frames with
    | f :: rest => { p with frames := rest, input := .doing f.action }
    | [] => if p.callerEnded then p.endInput else p
  | .doing (.keys bytes) =>
    if bytes.isEmpty then { p with input := .waiting }
    else if p.unitDeaf then p.endInput
    else { p with received := p.received ++ bytes, input := .waiting }
  | .doing (.errand e) => p.perform e
  | .doing .ignore => { p with input := .waiting }
  | .doing .stop => p.endInput
  | .ended => p

/-- The unit takes some of the keystrokes that are being written. -/
def write (p : Pumps) (n : Nat) : Pumps :=
  match p.input with
  | .doing (.keys bytes) =>
    if p.unitDeaf then p
    else { p with
      received := p.received ++ bytes.take n
      input := .doing (.keys (bytes.drop n)) }
  | _ => p

/-- **What the input's pump does fails.** A failed write ends the pump; a failed errand does not. -/
def failInput (p : Pumps) : Pumps :=
  match p.input with
  | .doing (.keys (_ :: _)) => p.endInput
  | .doing (.errand e) => p.issue e
  | _ => p

/-- The input's pump sees the sign to stop. -/
def stopInput (p : Pumps) : Pumps :=
  match p.input with
  | .waiting => if p.isCancelled then p.endInput else p
  | _ => p

/-- **The next step of the output's pump**: it reads a piece of output, or finds the end of the
output, or sends what it has read. -/
def stepOutput (p : Pumps) : Pumps :=
  match p.output with
  | .waiting =>
    match p.chunks with
    | c :: rest =>
      let left := c.drop bufferSize
      { p with
        chunks := if left.isEmpty then rest else left :: rest
        output := .doing (c.take bufferSize) }
    | [] => if p.unitEnded then p.endOutput else p
  | .doing c => if p.callerDeaf then p.endOutput else { p.send (.binary c) with output := .waiting }
  | .ended => p

/-- **What the output's pump does fails**, a read or a send, and the pump ends. -/
def failOutput (p : Pumps) : Pumps :=
  match p.output with
  | .ended => p
  | _ => p.endOutput

/-- The output's pump sees the sign to stop. -/
def stopOutput (p : Pumps) : Pumps :=
  match p.output with
  | .waiting => if p.isCancelled then p.endOutput else p
  | _ => p

/-- The input's pump has ended. -/
def inputEnded (p : Pumps) : Bool := p.input.hasEnded

/-- Both pumps have ended. -/
def isOver (p : Pumps) : Bool := p.inputEnded && p.output.hasEnded

end Pumps

/-- **What may happen next.** -/
inductive Move where
  | frame (f : ClientFrame)
  | endCaller
  | deafenCaller
  | chunk (bytes : List UInt8)
  /-- The unit hangs up: it neither sends nor takes anything more. -/
  | endUnit
  | stepInput
  | stepOutput
  /-- The unit takes that many bytes of what is being written. -/
  | write (n : Nat)
  | failInput
  | failOutput
  | stopInput
  | stopOutput
deriving Repr, DecidableEq, Inhabited

namespace Pumps

/-- **Let something happen.** -/
def move (p : Pumps) : Move → Pumps
  | .frame f => if p.callerEnded then p else { p with frames := p.frames ++ [f] }
  | .endCaller => { p with callerEnded := true }
  | .deafenCaller => { p with callerDeaf := true }
  | .chunk bytes =>
    if p.unitEnded || bytes.isEmpty then p else { p with chunks := p.chunks ++ [bytes] }
  | .endUnit => { p with unitEnded := true, unitDeaf := true }
  | .stepInput => p.stepInput
  | .stepOutput => p.stepOutput
  | .write n => p.write n
  | .failInput => p.failInput
  | .failOutput => p.failOutput
  | .stopInput => p.stopInput
  | .stopOutput => p.stopOutput

/-- Let one thing after another happen. -/
def moves (p : Pumps) (ms : List Move) : Pumps := ms.foldl move p

/-- **Let the pumps work** until they have nothing left to do. Each frame takes two steps, and each
piece of output, of which there are no more than bytes. -/
def settle (p : Pumps) : Pumps :=
  let p := p.moves (List.replicate (2 * (p.frames.length + 1)) .stepInput)
  let p := p.moves (List.replicate (2 * (p.chunks.flatten.length + 1)) .stepOutput)
  p.moves [.stopInput, .stopOutput]

/-- The new sizes among what was done since, in rows and columns. -/
def resizesSince (p old : Pumps) : List (UInt16 × UInt16) :=
  (p.issued.drop old.issued.length).filterMap fun
    | .resize rows cols => some (rows, cols)
    | .pong => none

end Pumps

end FleetControl.Terminal

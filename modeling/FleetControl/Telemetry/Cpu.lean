import FleetControl.Engine.Frame

/-!
# Processor usage

How much processor time a container takes, from one or two frames of its statistics. Between two
frames the time it took is set against the time between the readings, or, where those are unusable,
against the time of the whole host. A single frame is set against the counters of the frame before.
-/

namespace FleetControl.Telemetry

open Engine (Frame CpuCounters)

/-- Processor usage: cores in use times a hundred, and the same spread over all processors, from 0 to
100. -/
structure CpuUsage where
  raw : Float := 0
  spread : Float := 0
deriving Repr, Inhabited

/-- Keep a number within bounds; what is no number stays so. -/
def clamp (low high x : Float) : Float := if x < low then low else if high < x then high else x

/-- **The processors that a frame shows**; zero when it shows none. -/
def frameCpus (f : Frame) : UInt32 :=
  match f.cpu.online with
  | some n => if 0 < n then n else counted
  | none => counted
where
  /-- The processors with a counter of their own. -/
  counted : UInt32 := UInt32.ofNat (f.cpu.perCpu.elim 0 List.length)

/-- Nanoseconds between the readings of two frames. An engine that has no reading yet reports the
first year. -/
def elapsed? (prev curr : Frame) : Option Float := do
  let p ← prev.readAt?
  let c ← curr.readAt?
  if p.year ≤ 1 ∨ c.year ≤ 1 then none
  else (c.nanosSince? p).map Float.ofInt

/-- Usage by the time of the whole host. -/
def byHost (taken : Float) (curr prev : UInt64) (cpus : UInt32) : Float :=
  let host := curr.toFloat - prev.toFloat
  if 0 < taken && 0 < host then taken / host * cpus.toFloat * 100 else 0

/-- **Spread usage over processors**, from 0 to 100; zero when their number is unknown. -/
def spread (raw : Float) (cpus : UInt32) : Float :=
  if 0 < cpus then clamp 0 100 (raw / cpus.toFloat) else 0

/-- Usage between two frames. -/
def between (prev curr : Frame) (cpus : UInt32) : Float :=
  let taken := curr.cpu.total.toFloat - prev.cpu.total.toFloat
  let fromHost := byHost taken (curr.cpu.system.getD 0) (prev.cpu.system.getD 0) cpus
  match elapsed? prev curr with
  | some e => if 0 < e && 0 ≤ taken then taken / e * 100 else fromHost
  | none => fromHost

/-- Usage since the frame before, whose counters the frame carries. -/
def sinceBefore (curr : Frame) (cpus : UInt32) : Float :=
  if 0 < curr.cpu.total && 0 < curr.precpu.total then
    byHost (curr.cpu.total.toFloat - curr.precpu.total.toFloat) (curr.cpu.system.getD 0)
      (curr.precpu.system.getD 0) cpus
  else 0

/-- **Processor usage of one or two frames.** Further frames do not count; `spare` is the number of
processors where the frames show none. -/
def cpuUsage (frames : List Frame) (spare : UInt32) : CpuUsage :=
  let cpusOf (f : Frame) : UInt32 := if frameCpus f = 0 then spare else frameCpus f
  match frames with
  | [] => {}
  | [only] =>
    let raw := sinceBefore only (cpusOf only)
    ⟨raw, spread raw (cpusOf only)⟩
  | prev :: curr :: _ =>
    let raw := between prev curr (cpusOf curr)
    ⟨raw, spread raw (cpusOf curr)⟩

end FleetControl.Telemetry

import FleetControl.Json.Reader

/-!
# Frames of statistics

An engine reports a container's counters frame by frame. A frame carries the counters of the frame
before it too. Whatever is missing is zero, empty or unknown.
-/

namespace FleetControl.Engine

/-- Counters of processor time, in nanoseconds. -/
structure CpuCounters where
  total : UInt64 := 0
  perCpu : Option (List UInt64) := none
  /-- Time of the whole host. -/
  system : Option UInt64 := none
  online : Option UInt32 := none
deriving Repr, DecidableEq, Inhabited

namespace CpuCounters

/-- Read the container's own time: in total, and for each processor. -/
def readUsage : Reader (UInt64 × Option (List UInt64)) :=
  Form.read <| Prod.mk <$> .withDefault "total_usage" .u64 0
    <*> .optional "percpu_usage" (.list .u64)

/-- Read counters. -/
def read : Reader CpuCounters :=
  Form.read <| build <$> .withDefault "cpu_usage" readUsage (0, none)
    <*> .optional "system_cpu_usage" .u64
    <*> .optional "online_cpus" .u32
where
  build own system online := { total := own.1, perCpu := own.2, system, online }

/-- Counters as written. -/
def json (c : CpuCounters) : Json :=
  .obj [("cpu_usage", .obj [("total_usage", .u64 c.total),
      ("percpu_usage", .opt (Json.list .u64) c.perCpu)]),
    ("system_cpu_usage", .opt .u64 c.system),
    ("online_cpus", .opt (fun n => .int n.toNat) c.online)]

end CpuCounters

/-- **One frame of a container's statistics.** -/
structure Frame where
  /-- When the frame was read, as text. -/
  read : String := ""
  cpu : CpuCounters := {}
  /-- The counters of the frame before. -/
  precpu : CpuCounters := {}
  memoryUsage : Option UInt64 := none
  memoryLimit : Option UInt64 := none
  processes : Option UInt64 := none
deriving Repr, DecidableEq, Inhabited

namespace Frame

/-- Read the memory counters. -/
def memoryOf : Reader (Option UInt64 × Option UInt64) :=
  Form.read <| Prod.mk <$> .optional "usage" .u64
    <*> .optional "limit" .u64

/-- Read the count of processes. -/
def processesOf : Reader (Option UInt64) :=
  Form.read <| .optional "current" .u64

/-- Read a frame. -/
def ofJson : Reader Frame :=
  Form.read <| build <$> .withDefault "read" .text ""
    <*> .withDefault "cpu_stats" CpuCounters.read {}
    <*> .withDefault "precpu_stats" CpuCounters.read {}
    <*> .withDefault "memory_stats" memoryOf (none, none)
    <*> .withDefault "pids_stats" processesOf none
where
  build read cpu precpu memory processes :=
    { read, cpu, precpu, memoryUsage := memory.1, memoryLimit := memory.2, processes }

/-- A frame as written. -/
def json (f : Frame) : Json :=
  .obj [("read", .str f.read), ("cpu_stats", f.cpu.json), ("precpu_stats", f.precpu.json),
    ("memory_stats", .obj [("usage", .opt .u64 f.memoryUsage), ("limit", .opt .u64 f.memoryLimit)]),
    ("pids_stats", .obj [("current", .opt .u64 f.processes)])]

/-- When the frame was read, if the text says so. -/
def readAt? (f : Frame) : Option Time.Moment := Time.strict? f.read

end Frame

end FleetControl.Engine

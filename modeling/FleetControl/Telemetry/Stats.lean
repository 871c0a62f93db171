import FleetControl.Engine.Inspection
import FleetControl.Json.Parser
import FleetControl.Telemetry.Cpu
import FleetControl.Telemetry.Sizes

/-!
# Statistics of a unit

What is told of a running unit: processor, memory, processes and GPU memory.
-/

namespace FleetControl.Telemetry

/-- GPU memory that a unit sees. -/
structure GpuMemory where
  sizeGb : Float := 0
  /-- Used memory in hundredths. -/
  usedPercent : Float := 0
deriving Repr, Inhabited

/-- GPU memory from the lines of the cards. -/
def GpuMemory.ofLines (l : CardLines) : GpuMemory := ⟨l.total / 1024, l.used / l.total * 100⟩

/-- **Statistics of a unit.** -/
structure Stats where
  cpuPercent : Float := 0
  /-- Cores in use times a hundred. -/
  cpuPercentRaw : Float := 0
  memoryUsage : UInt64 := 0
  memoryLimit : UInt64 := 0
  memoryPercent : Float := 0
  processes : UInt64 := 0
  gpu : GpuMemory := {}
deriving Repr, Inhabited

namespace Stats

/-- Statistics by name, with a way to write the numbers that are no whole numbers. -/
def members (real : Float → Json) (s : Stats) : List (String × Json) :=
  [("cpu_usage_percent", real s.cpuPercent), ("cpu_usage_percent_raw", real s.cpuPercentRaw),
   ("memory_usage", .u64 s.memoryUsage), ("memory_limit", .u64 s.memoryLimit),
   ("memory_usage_percent", real s.memoryPercent), ("pids", .u64 s.processes),
   ("gpu_memory_size_gb", real s.gpu.sizeGb), ("gpu_memory_usage_rate", real s.gpu.usedPercent)]

/-- Statistics as written. -/
def json (s : Stats) : Json := .obj (s.members .finite)

/-- Read what the engine's command line prints of a unit: an object of texts. -/
def read : Reader Stats :=
  Form.read <| build <$> .withDefault "CPUPerc" .text ""
    <*> .withDefault "MemUsage" .text ""
    <*> .withDefault "MemPerc" .text ""
    <*> .withDefault "PIDs" .text ""
where
  build cpu memory memoryPercent processes :=
    let raw := percent cpu
    let (memoryUsage, memoryLimit) := usedTotal memory
    { cpuPercent := clamp 0 100 raw, cpuPercentRaw := raw, memoryUsage, memoryLimit,
      memoryPercent := percent memoryPercent,
      processes := (Number.readU64? (Text.trim processes)).getD 0 }

/-- **Read one line that the engine's command line prints.** -/
def ofLine? (line : String) : Option Stats := read.whole? (Text.trim line)

/-- Statistics of frames, the last of which is `last`. -/
def ofFrames (frames : List Engine.Frame) (last : Engine.Frame) (spareCpus : UInt32)
    (gpu : GpuMemory) : Stats :=
  let cpu := cpuUsage frames spareCpus
  let usage := last.memoryUsage.getD 0
  let limit := last.memoryLimit.getD 0
  { cpuPercent := cpu.spread, cpuPercentRaw := cpu.raw, memoryUsage := usage, memoryLimit := limit,
    memoryPercent := if 0 < limit then usage.toFloat / limit.toFloat * 100 else 0,
    processes := last.processes.getD 0, gpu := gpu }

end Stats

/-- The processors that a unit may use, from what the engine reports of it; zero when unknown. -/
def inspectedCpus (i : Engine.Inspection) : UInt32 :=
  let n := processors i.cpuset
  if n = 0 ∧ 0 < i.nanoCpus then (i.nanoCpus.toFloat / 1e9).ceil.toUInt32 else n

end FleetControl.Telemetry
